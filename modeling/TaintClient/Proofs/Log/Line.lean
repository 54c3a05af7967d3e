/-
  A note is one line, and no other. `Logged` says what is noted at all: by runs, by exchanges and
  by sessions, at endpoints that were accepted, and with any service. Each such message is of one
  line, so in the plain form nothing that a service answers can pass for a note of its own. In the
  form of an object the message is escaped, and the rest of the line needs no escapes, so for
  every note whatever the line is an object that tells the note (`Record.Tells`).
-/
import TaintClient.Log.Printer
import TaintClient.Proofs.Response.Restated
import TaintClient.Proofs.Run.Report
import TaintClient.Proofs.Session.Wording

namespace TaintClient

open Text (oneLine_append oneLine_cons oneLine_toString)

/-! ## Runs -/

namespace Run

variable {u : Url}

theorem oneLine_analyzing (hu : u.IsPrintable) (m : Mode) : (analyzing m u).OneLine := by
  simp only [Log.Record.OneLine, analyzing, String.toList_append, oneLine_append]
  exact ⟨⟨⟨by decide, m.oneLine_name⟩, by decide⟩, hu.oneLine⟩

/-- The session of a run has the note on its launch, those of its exchange, and those of its
end. -/
theorem oneLine_afterExchange (hu : u.IsPrintable) (r : Request) {o : Exchange.Outcome}
    (ho : o.OneLine) : ∀ n ∈ (afterExchange u r o).1.notes, n.OneLine := by
  let t := ((Session.fresh u default (.fresh .plain)).submit r).1.addNotes o.notes
  have hsub : t.submissions[0]? = some { request := r, state := .submitted } := rfl
  have hnotes : ∀ n ∈ t.notes, n.OneLine := List.forall_mem_append.mpr
    ⟨List.forall_mem_singleton.mpr (Session.oneLine_submittedNote hu r.mode), ho.notes⟩
  have hrun : afterExchange u r o = (t.complete 0 (some o.result), 0) := rfl
  rw [hrun, Session.complete_some hsub rfl rfl]
  exact Session.oneLine_apply hnotes 0 r.mode ho.failure

/-- What a run notes is of one line, whatever the configuration, the files and the service. -/
theorem oneLine_perform {σ : Type} (service : Http.Service σ) (s : σ) (files : Files)
    (c : Config) : ∀ n ∈ ((perform service.observed files c).run (s, [])).1.notes, n.OneLine := by
  cases hr : request files c with
  | error f =>
    rw [perform_of_error _ hr]
    exact List.forall_mem_nil _
  | ok r =>
    cases hu : endpoint c.endpoint with
    | error f =>
      rw [perform_of_badEndpoint _ hr hu]
      exact List.forall_mem_nil _
    | ok u =>
      have hu := isPrintable_endpoint hu
      rw [perform_of_ok _ hr ‹_›, StateT.run_bind]
      exact List.forall_mem_cons.mpr ⟨oneLine_analyzing hu c.mode,
        oneLine_afterExchange hu r (Exchange.oneLine_analyze service s hu r)⟩

end Run

/-! ## What is noted -/

namespace Log

/-- What the program may note: in a run, of an exchange, or in a session whose tasks get what
exchanges came to. An exchange that is given up noted no more than one that came to its end. -/
inductive Logged : Record → Prop
  | run {σ : Type} {service : Http.Service σ} {s : σ} {files : Files} {c : Config} {r : Record}
      (h : r ∈ ((Run.perform service.observed files c).run (s, [])).1.notes) : Logged r
  | exchange {σ : Type} {service : Http.Service σ} {s : σ} {base : String} {u : Url}
      {q : Request} {r : Record} (hu : endpoint base = .ok u)
      (h : r ∈ ((Exchange.analyze service.observed u q).run (s, [])).1.notes) : Logged r
  | session {base : String} {u : Url} {policy : ResubmitPolicy} {panel : Panel}
      {sections : List Section} {w : Interleaving} {r : Record} (hu : endpoint base = .ok u)
      (hw : (Interleaving.start u policy panel).run sections = some w)
      (hs : Interleaving.Exchanged u sections) (h : r ∈ w.session.notes) : Logged r

theorem Logged.oneLine {r : Record} (h : Logged r) : r.OneLine := by
  cases h with
  | run h => exact Run.oneLine_perform _ _ _ _ r h
  | exchange hu h => exact (Exchange.oneLine_analyze _ _ (isPrintable_endpoint hu) _).notes r h
  | session hu hw hs h => exact Interleaving.oneLine_of_run (isPrintable_endpoint hu) hw hs r h

/-! ## Lines -/

open Json (writeText)
open Response (Member IsObjectOf writeInteger isText_writeText isInteger_writeInteger
  isObjectOf_text)

variable {r : Record}

theorem oneLine_level (l : Level) : Text.OneLine l.text.toList := by
  cases l <;> decide

theorem oneLine_target (s : Source) : Text.OneLine s.target.toList := by
  cases s <;> decide

/-- A plain line is of one line where the message is. -/
theorem Record.OneLine.plainLine (h : r.OneLine) {time : String}
    (ht : Text.OneLine time.toList) : Text.OneLine (r.plainLine time).toList := by
  simp only [Record.plainLine, String.toList_append, oneLine_append]
  exact ⟨⟨⟨⟨⟨⟨ht, by decide⟩, oneLine_level _⟩, by decide⟩, oneLine_target _⟩, by decide⟩, h⟩

/-- A line that tells a note: it is of one line, and an object with four members only, which are
read as the time, the level, the part of the program and the message. -/
structure Record.Tells (r : Record) (milliseconds : Int) (line : List Char) : Prop where
  oneLine : Text.OneLine line
  members : ∃ ts level target msg : List Char,
    (∀ ms, IsObjectOf ms line ↔ ms = [⟨"ts".toList, ts⟩, ⟨"level".toList, level⟩,
      ⟨"target".toList, target⟩, ⟨"msg".toList, msg⟩]) ∧
    Json.Reads Json.readInteger ts milliseconds [] ∧
    Json.Reads (Json.readString "a string") level r.level.text.toList [] ∧
    Json.Reads (Json.readString "a string") target r.source.target.toList [] ∧
    Json.Reads (Json.readString "a string") msg r.message.toList []

/-- An escaped character is of one line, also where it is a line break itself. -/
theorem oneLine_escapeChar (c : Char) : Text.OneLine (Json.escapeChar c) := by
  have hdigit : ∀ d < 16, Text.OneLine [Nat.digitChar d] := by decide
  unfold Json.escapeChar
  split_ifs with _ _ _ _ hfeed hreturn _ hcontrol
  all_goals try decide
  · have hhigh := hdigit (c.toNat / 16) (by omega)
    have hlow := hdigit (c.toNat % 16) (Nat.mod_lt _ (by decide))
    simp only [oneLine_cons] at hhigh hlow ⊢
    exact ⟨by decide, by decide, by decide, by decide, hhigh.1, hlow⟩
  · exact List.forall_mem_singleton.mpr ⟨hfeed, hreturn⟩

theorem oneLine_writeText (s : List Char) : Text.OneLine (writeText s) := by
  unfold writeText
  rw [oneLine_append, oneLine_cons]
  exact ⟨⟨by decide, List.forall_mem_flatMap.mpr fun c _ => oneLine_escapeChar c⟩, by decide⟩

/-- An integer is shown as it is written. -/
theorem toList_toString (n : Int) : (toString n).toList = writeInteger n := by
  cases n with
  | ofNat m => exact String.toList_ofList
  | negSucc m =>
    have h : toString (Int.negSucc m) = "-" ++ String.ofList (Nat.toDigits 10 (m + 1)) := rfl
    rw [h, writeInteger, if_pos (Int.negSucc_lt_zero m), String.toList_append]
    exact congrArg ("-".toList ++ ·) String.toList_ofList

theorem oneLine_writeInteger (n : Int) : Text.OneLine (writeInteger n) := by
  unfold writeInteger
  rw [oneLine_append]
  exact ⟨by split <;> decide, (Text.printable_decimal _).oneLine⟩

/-- The names of levels are written without escapes. -/
theorem writeText_level (l : Level) : writeText l.text.toList = '"' :: l.text.toList ++ ['"'] := by
  cases l <;> decide

theorem writeText_target (s : Source) :
    writeText s.target.toList = '"' :: s.target.toList ++ ['"'] := by
  cases s <;> decide

/-- The members of a note in the form of an object. -/
def Record.members (r : Record) (milliseconds : Int) : List Member :=
  [⟨"ts".toList, writeInteger milliseconds⟩, ⟨"level".toList, writeText r.level.text.toList⟩,
    ⟨"target".toList, writeText r.source.target.toList⟩, ⟨"msg".toList, writeText r.message.toList⟩]

/-- The line is that of an object with these members and without blanks. -/
theorem Record.toList_jsonLine (r : Record) (milliseconds : Int) :
    (r.jsonLine milliseconds).toList =
      '\x7b' :: [','].intercalate ((r.members milliseconds).map Member.text) ++ ['\x7d'] := by
  have hts : "\x7b\"ts\":".toList = '\x7b' :: writeText "ts".toList ++ [':'] := by decide
  have hlevel : ",\"level\":\"".toList = ',' :: writeText "level".toList ++ [':', '"'] := by decide
  have htarget : "\",\"target\":\"".toList =
      '"' :: ',' :: writeText "target".toList ++ [':', '"'] := by decide
  have hmsg : "\",\"msg\":".toList = '"' :: ',' :: writeText "msg".toList ++ [':'] := by decide
  have hend : "\x7d".toList = ['\x7d'] := by decide
  simp only [jsonLine, members, String.toList_append, String.toList_ofList, toList_toString,
    writeText_level, writeText_target, hts, hlevel, htarget, hmsg, hend]
  simp [List.intercalate, Member.text]

/-- The line of a note in the form of an object is of one line, whatever its message. -/
theorem Record.oneLine_jsonLine (r : Record) (milliseconds : Int) :
    Text.OneLine (r.jsonLine milliseconds).toList := by
  simp only [jsonLine, String.toList_append, String.toList_ofList, toList_toString, oneLine_append]
  exact ⟨⟨⟨⟨⟨⟨⟨⟨by decide, oneLine_writeInteger _⟩, by decide⟩, oneLine_level _⟩, by decide⟩,
    oneLine_target _⟩, by decide⟩, oneLine_writeText _⟩, by decide⟩

/-- What is written of a kind is read by the reader of the kind. -/
theorem reads_value {α : Type} {read : Json.Cursor → Except Json.Fault (α × Json.Cursor)}
    {is : α → List Char → Prop} (hr : Json.Recognizes read is) {x : α} {v : List Char}
    (hv : is x v) : Json.Reads read v x [] := by
  have h := hr.complete (u := []) (t := []) hv nofun nofun
  rwa [List.nil_append, List.append_nil] at h

/-- Every note is told by its line in the form of an object. -/
theorem Record.tells_jsonLine (r : Record) (milliseconds : Int64) :
    r.Tells milliseconds.toInt (r.jsonLine milliseconds.toInt).toList where
  oneLine := r.oneLine_jsonLine _
  members := by
    have hts := isInteger_writeInteger milliseconds
    have htext (s : List Char) := isText_writeText s
    have hobject : IsObjectOf (r.members milliseconds.toInt)
        (r.jsonLine milliseconds.toInt).toList := by
      rw [r.toList_jsonLine]
      refine isObjectOf_text fun m hm => ?_
      simp only [members, List.mem_cons, List.not_mem_nil, or_false] at hm
      obtain rfl | rfl | rfl | rfl := hm
      exacts [hts.value, (htext _).value, (htext _).value, (htext _).value]
    have hread (s : List Char) := reads_value (Json.recognizes_readString "a string") (htext s)
    exact ⟨_, _, _, _, fun ms => ⟨fun h => h.unique hobject, fun h => h ▸ hobject⟩,
      reads_value Json.recognizes_readInteger hts, hread _, hread _, hread _⟩

/-- **A note is one line.** Whatever a service answers, and whatever is submitted where and with
what configuration, the message of a note is of one line: in the plain form its line is one, behind
any time of day. In the form of an object the line is one too, and it has four members only, of
which the last is read as the message and those before it as the level and the part of the program
that the note is of. -/
theorem line_of_logged (h : Logged r) :
    Text.OneLine r.message.toList ∧
    (∀ time : String, Text.OneLine time.toList → Text.OneLine (r.plainLine time).toList) ∧
    ∀ milliseconds : Int64,
      r.Tells milliseconds.toInt (r.jsonLine milliseconds.toInt).toList :=
  ⟨h.oneLine, fun _ => h.oneLine.plainLine, r.tells_jsonLine⟩

/-- A service whose body is a text with a line break, behind which it looks like a note. -/
def forging : Http.Service Nat := Http.scripted fun _ =>
  some (.answer
    { status := .ok, body := Text.Utf8.encode "\"\\n09:00:00 ERROR forged\"".toList })

/-- What the body says is noted as an error, quoted, and on one line in either form. -/
theorem line_of_forging :
    let c : Config := { code := some "6080", endpoint := "http://[::1]/" }
    let run := (Run.perform forging.observed (fun _ => .error .missing) c).run (0, [])
    let message := "bytecode submission faulted: Malformed analysis response: invalid type: string "
      ++ "\"\\n09:00:00 ERROR forged\", expected struct AnalysisResponse at line 1 column 25"
    ∃ r ∈ run.1.notes, r.message = message ∧
      Text.OneLine (r.plainLine "08:59:59.000").toList ∧
      r.Tells (0 : Int64).toInt (r.jsonLine (0 : Int64).toInt).toList := by
  intro c run message
  obtain ⟨r, hr, hmessage⟩ : ∃ r ∈ run.1.notes, r.message = message := by decide +kernel
  obtain ⟨_, hplain, hobject⟩ := line_of_logged (.run hr)
  exact ⟨r, hr, hmessage, hplain _ (by decide), hobject 0⟩

end Log

end TaintClient
