/-
  What one analysis reports, from the configuration to the exit code.

  `Built` says which request a configuration asks for, or why there is none; `Summary.ofResult` says
  what is reported of an exchange, by the class of its result; `Concludes` says what the program
  prints of a report and how it exits. The main statement puts them together for every
  configuration, file system and service: nothing is sent before the request and the endpoint are
  there, and what is sent is one exchange, whose result alone decides the report.

  That the page shows a report without saying whose (`Fault.lostResponse`) cannot happen: a run has
  one submission on a fresh page, and the section that renders it writes both.
-/
import TaintClient.Program
import TaintClient.Proofs.Exchange.Result
import TaintClient.Proofs.Session.Place

namespace TaintClient

theorem Files.text_of_error {files : Files} {path : Text.Loose} {why : FileFault}
    (h : files path = .error why) : files.text path = .error why := by
  rw [text, h]
  rfl

theorem Files.text_of_ok {files : Files} {path : Text.Loose} {bytes : List UInt8}
    (h : files path = .ok bytes) :
    files.text path =
      match Text.Utf8.decode? bytes with
      | some s => .ok (String.ofList s)
      | none => .error .notText := by
  rw [text, h]
  rfl

namespace Run

/-! ## The request -/

/-- What a configuration asks for: the bundled contract, the code that it gives, or the code of a
file, in this order; or why there is no code. -/
inductive Built (files : Files) (c : Config) : Except Fault Request → Prop
  | demo (hd : c.demo = true) : Built files c (.ok ⟨c.mode, demoCode, demoInput, c.name⟩)
  | given {code} (hd : c.demo = false) (hc : c.code = some code) :
      Built files c (.ok ⟨c.mode, code, c.input, c.name⟩)
  | file {path bytes text} (hd : c.demo = false) (hc : c.code = none)
      (hf : c.codeFile = some path) (hb : files path = .ok bytes)
      (ht : Text.Utf8.decode? bytes = some text) :
      Built files c (.ok ⟨c.mode, String.ofList text, c.input, c.name⟩)
  | noCode (hd : c.demo = false) (hc : c.code = none) (hf : c.codeFile = none) :
      Built files c (.error .noCode)
  | unreadable {path why} (hd : c.demo = false) (hc : c.code = none)
      (hf : c.codeFile = some path) (hb : files path = .error why) :
      Built files c (.error (.unreadable path why))
  | notText {path bytes} (hd : c.demo = false) (hc : c.code = none)
      (hf : c.codeFile = some path) (hb : files path = .ok bytes)
      (ht : Text.Utf8.decode? bytes = none) :
      Built files c (.error (.unreadable path .notText))

section Built

variable {files : Files} {c : Config} {built : Except Fault Request}

theorem code_of_file {path : Text.Loose} (hc : c.code = none) (hf : c.codeFile = some path) :
    code files c = (files.text path).mapError (.unreadable path) := by
  rw [code, hc, hf]

theorem request_of_built (h : Built files c built) : request files c = built := by
  cases h with
  | demo hd => rw [request, hd, if_pos rfl]
  | given hd hc => simp [request, code, hd, hc, Except.map]
  | noCode hd hc hf => simp [request, code, hd, hc, hf, Except.map]
  | unreadable hd hc hf hb =>
    simp [request, hd, code_of_file hc hf, Files.text_of_error hb, Except.map, Except.mapError]
  | file hd hc hf hb ht | notText hd hc hf hb ht =>
    simp [request, hd, code_of_file hc hf, Files.text_of_ok hb, ht, Except.map, Except.mapError]

theorem exists_built (files : Files) (c : Config) : ∃ built, Built files c built := by
  cases hd : c.demo with
  | true => exact ⟨_, .demo hd⟩
  | false =>
    cases hc : c.code with
    | some code => exact ⟨_, .given hd hc⟩
    | none =>
      cases hf : c.codeFile with
      | none => exact ⟨_, .noCode hd hc hf⟩
      | some path =>
        cases hb : files path with
        | error why => exact ⟨_, .unreadable hd hc hf hb⟩
        | ok bytes =>
          cases ht : Text.Utf8.decode? bytes with
          | none => exact ⟨_, .notText hd hc hf hb ht⟩
          | some text => exact ⟨_, .file hd hc hf hb ht⟩

/-- The request of a configuration is what it asks for. -/
theorem request_eq_iff : request files c = built ↔ Built files c built := by
  refine ⟨?_, request_of_built⟩
  obtain ⟨built', h⟩ := exists_built files c
  rw [request_of_built h]
  rintro rfl
  exact h

end Built

/-! ## The report -/

/-- What is reported of an exchange that came to a result. An exchange comes to no other failures
than these. -/
inductive Reported : Except Failure Response → Summary → Prop
  | rendered (r : Response) :
      Reported (.ok r)
        { state := .rendered, html := Report.html r, text := some (Report.plainText r),
          title := r.title, serviceFailure := r.isFailure, alerts := [] }
  | transport (f : Http.Fault) :
      Reported (.error (.transport f))
        { state := .alerted, html := Report.placeholder, text := none, title := none,
          serviceFailure := false, alerts := [Panel.alertMessage] }
  | status (st : Http.Status) :
      Reported (.error (.status st))
        { state := .alerted, html := Report.placeholder, text := none, title := none,
          serviceFailure := false, alerts := [Panel.alertMessage] }
  | malformed (f : Json.Fault) :
      Reported (.error (.malformedBody f))
        { state := .faulted, html := Report.placeholder, text := none, title := none,
          serviceFailure := false, alerts := [] }

/-- What a plain page says of the only submission on it. -/
theorem summarize_finish {result : Except Failure Response} {summary : Summary}
    (h : Reported result summary) (m : Mode) :
    summarize (((Panel.fresh .plain).start m).finish m result).2.1 (.ofResult result) =
      .ok summary := by
  have hr := Panel.region_finish ((Panel.fresh .plain).start m) m result
  have ha := Panel.alerts_finish ((Panel.fresh .plain).start m) m result
  rw [Panel.region_start] at hr
  rw [Panel.alerts_start] at ha
  generalize (((Panel.fresh .plain).start m).finish m result).2.1 = p at hr ha
  obtain ⟨hh, hl⟩ := Prod.mk.inj hr
  unfold summarize
  rw [ha, hh]
  cases h with
  | rendered r =>
    rw [hl]
    rfl
  | transport | status | malformed => rfl

/-- The only submission of a run ends in the state of its result, and so does the page. -/
theorem afterExchange_eq (u : Url) (r : Request) (o : Exchange.Outcome) :
    ∃ s, afterExchange u r o = (s, 0) ∧ s.state? 0 = some (.ofResult o.result) ∧
      s.panel = (((Panel.fresh .plain).start r.mode).finish r.mode o.result).2.1 := by
  let t := ((Session.fresh u default (.fresh .plain)).submit r).1.addNotes o.notes
  have hsub : t.submissions[0]? = some { request := r, state := .submitted } := rfl
  have hpanel : t.panel = (Panel.fresh .plain).start r.mode := rfl
  have hrun : afterExchange u r o = (t.complete 0 (some o.result), 0) := rfl
  rw [Session.complete_some hsub rfl rfl] at hrun
  refine ⟨_, hrun, ?_, ?_⟩
  · rw [(Session.ends_apply t 0 r.mode o.result).state?_eq, if_pos rfl,
      Session.state?_of_getElem? hsub]
    rfl
  · rw [← hpanel]
    rfl

/-- What a run reports is told from the result of its exchange. -/
theorem summarize_afterExchange {o : Exchange.Outcome} {summary : Summary}
    (h : Reported o.result summary) (u : Url) (r : Request) :
    let (s, id) := afterExchange u r o
    summarize s.panel ((s.state? id).getD .idle) = .ok summary := by
  obtain ⟨s, hs, hstate, hpanel⟩ := afterExchange_eq u r o
  rw [hs]
  dsimp only
  rw [hstate, hpanel]
  exact summarize_finish h r.mode

/-- Whatever comes of an exchange, there is a report on it. -/
theorem exists_reported {τ : Type} (send : Http.Request → StateM τ Http.Reply) (u : Url)
    (r : Request) (x : τ) :
    ∃ summary, Reported ((Exchange.analyze send u r).run x).1.result summary := by
  unfold Exchange.analyze
  rw [StateT.run_bind]
  generalize (Http.fetch send (Exchange.httpRequest u r)).run x = fetched
  obtain ⟨fetched | a, x'⟩ := fetched
  · exact ⟨_, .transport _⟩
  · change ∃ summary, Reported (Exchange.read u a).result summary
    rw [Exchange.read_result]
    split_ifs
    · cases Exchange.bodyOf a with
      | error f => exact ⟨_, .malformed f⟩
      | ok response => exact ⟨_, .rendered response⟩
    · exact ⟨_, .transport _⟩
    · exact ⟨_, .status _⟩

/-! ## The run -/

section Run

variable {m : Type → Type} [Monad m] (send : Http.Request → m Http.Reply) {files : Files}
  {c : Config}

theorem perform_of_error {f : Fault} (h : request files c = .error f) :
    perform send files c = pure ⟨.error f, []⟩ := by
  rw [perform, h]

theorem perform_of_badEndpoint {r : Request} {f : Url.Fault} (h : request files c = .ok r)
    (hu : endpoint c.endpoint = .error f) :
    perform send files c = pure ⟨.error (.badEndpoint c.endpoint f), []⟩ := by
  rw [perform, h, hu]

/-- With a request and an endpoint, a run is one exchange and what is made of it. -/
theorem perform_of_ok {r : Request} {u : Url} (h : request files c = .ok r)
    (hu : endpoint c.endpoint = .ok u) :
    perform send files c = Exchange.analyze send u r >>= fun o =>
      let (s, id) := afterExchange u r o
      pure ⟨summarize s.panel ((s.state? id).getD .idle), analyzing c.mode u :: s.notes⟩ := by
  rw [perform, h, hu]

end Run

/-- A run that gets as far as its exchange sends what the exchange sends, and reports on it. -/
theorem run_perform_of_ok {τ : Type} (send : Http.Request → StateM τ Http.Reply) {files : Files}
    {c : Config} {r : Request} {u : Url} (h : request files c = .ok r)
    (hu : endpoint c.endpoint = .ok u) (x : τ) :
    let run := (perform send files c).run x
    let exchange := (Exchange.analyze send u r).run x
    run.2 = exchange.2 ∧
      ∃ summary, run.1.result = .ok summary ∧ Reported exchange.1.result summary := by
  obtain ⟨summary, hsummary⟩ := exists_reported send u r x
  rw [perform_of_ok send h hu, StateT.run_bind]
  exact ⟨rfl, summary, summarize_afterExchange hsummary u r, hsummary⟩

/-- A page that shows a report says whose it is. -/
theorem result_ne_lostResponse {τ : Type} (send : Http.Request → StateM τ Http.Reply)
    (files : Files) (c : Config) (x : τ) :
    ((perform send files c).run x).1.result ≠ .error .lostResponse := by
  cases hr : request files c with
  | error f =>
    rw [perform_of_error send hr]
    intro hf
    obtain rfl : f = .lostResponse := Except.error.inj hf
    cases request_eq_iff.mp hr
  | ok r =>
    cases hu : endpoint c.endpoint with
    | error f =>
      rw [perform_of_badEndpoint send hr hu]
      nofun
    | ok u =>
      obtain ⟨-, summary, hs, -⟩ := run_perform_of_ok send hr hu x
      rw [hs]
      nofun

end Run

namespace Program

/-- What the program prints and how it exits when a run came to a result: it is a success exactly
if a report is shown, and then the report is all that is printed. -/
structure Concludes (format : OutputFormat) (result : Except Run.Fault Run.Summary) (o : Outcome) :
    Prop where
  exit_zero_iff : o.exitCode = 0 ↔ ∃ summary, result = .ok summary ∧ summary.state = .rendered
  text : ∀ summary, result = .ok summary → summary.state = .rendered → format = .text →
    o.output = summary.text.getD ""
  html : ∀ summary, result = .ok summary → summary.state = .rendered → format = .html →
    o.output = summary.html ++ "\n"
  failure : o.exitCode ≠ 0 → o.exitCode = 1 ∧ o.output = ""

theorem concludes_conclude (format : OutputFormat) (result : Except Run.Fault Run.Summary)
    (notices : List Notice) :
    Concludes format result { conclude format result with notices := notices } := by
  cases result with
  | error f => constructor <;> simp [conclude]
  | ok summary =>
    unfold conclude
    dsimp only
    by_cases hs : summary.state = .rendered
    · rw [if_pos hs]
      constructor <;> simp +contextual [hs, reportText]
    · rw [if_neg hs]
      constructor <;> simp +contextual [hs]

/-- A program that is asked for an analysis makes one run, and prints what it came to. -/
theorem run_perform {τ : Type} (send : Http.Request → StateM τ Http.Reply) (files : Files)
    (regex : Log.Regex) {e : Environment} {arguments : List Text.Loose} {c : Config}
    (h : command e arguments = .ok (.run c)) (x : τ) :
    let run := (Run.perform send files c).run x
    ∃ o, (perform send files regex e arguments).run x = (o, run.2) ∧
      Concludes c.output run.1.result o := by
  unfold perform
  rw [h]
  exact ⟨_, rfl, concludes_conclude _ _ _⟩

end Program

/-- **What one analysis reports.** The first part says which request a configuration asks for, the
second what is sent and reported, the last what the program prints and how it exits. -/
theorem Run.perform_reports {σ : Type} (service : Http.Service σ) (s : σ) (files : Files)
    (c : Config) :
    let run := (perform service.observed files c).run (s, [])
    (∀ built, request files c = built ↔ Built files c built) ∧
    (match request files c, endpoint c.endpoint with
      | .error f, _ => run.1.result = .error f ∧ run.2 = (s, [])
      | .ok _, .error f => run.1.result = .error (.badEndpoint c.endpoint f) ∧ run.2 = (s, [])
      | .ok r, .ok u =>
        let exchange := (Exchange.analyze service.observed u r).run (s, [])
        run.2 = exchange.2 ∧
          ∃ summary, run.1.result = .ok summary ∧ Reported exchange.1.result summary) ∧
    run.1.result ≠ .error .lostResponse ∧
    ∀ regex e arguments, Program.command e arguments = .ok (.run c) →
      ∃ o, (Program.perform service.observed files regex e arguments).run (s, []) = (o, run.2) ∧
        Program.Concludes c.output run.1.result o := by
  refine ⟨fun _ => request_eq_iff, ?_, result_ne_lostResponse _ files c _,
    fun regex e arguments h => Program.run_perform _ files regex h _⟩
  cases hr : request files c with
  | error f =>
    rw [perform_of_error _ hr]
    exact ⟨rfl, rfl⟩
  | ok r =>
    cases hu : endpoint c.endpoint with
    | error f =>
      rw [perform_of_badEndpoint _ hr hu]
      exact ⟨rfl, rfl⟩
    | ok u => exact run_perform_of_ok _ hr hu _

/-- A service that first leads on and then sends a report. -/
def Run.leadingOnce : Http.Service Nat := Http.scripted fun n =>
  [Http.Reply.answer { status := ⟨302⟩, location := some "/here" },
    .answer { status := .ok, body := Text.Utf8.encode "\x7b\"data\":\"Safe\"\x7d".toList }][n]?

/-- The program asked to analyse a code, where the service leads on once: it is asked twice, and
its report is shown. -/
theorem Run.reports_leadingOnce :
    let c : Config := { code := some "6080", endpoint := "http://[::1]/" }
    let arguments := ["--code", "6080", "--endpoint", "http://[::1]/"].map Text.Loose.ofText
    let files : Files := fun _ => .error .missing
    let regex : Log.Regex := .error
    let run := (perform leadingOnce.observed files c).run (0, [])
    Program.command .empty arguments = .ok (.run c) ∧ run.2.2.length = 2 ∧
      run.1.result.toOption.any (fun summary => summary.state = .rendered) ∧
      ∃ o, (Program.perform leadingOnce.observed files regex .empty arguments).run (0, []) =
          (o, run.2) ∧
        Program.Concludes c.output run.1.result o := by
  intro c arguments files regex run
  have h : Program.command .empty arguments = .ok (.run c) := by decide +kernel
  exact ⟨h, by decide +kernel, by decide +kernel,
    (perform_reports leadingOnce 0 files c).2.2.2 regex .empty arguments h⟩

end TaintClient
