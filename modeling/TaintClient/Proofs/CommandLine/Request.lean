/-
  What becomes of what is given on a command line. An accepted command line gives one source of code
  at most, and no call data with the bundled contract. So there is nothing that the request of its
  configuration could leave out, though it looks at the sources in an order of its own: it uses all
  that is given (`Uses`), and there is none only for want of a source or of its text (`Lacks`).
-/
import TaintClient.Proofs.CommandLine.Accepted
import TaintClient.Proofs.Run.Report

namespace TaintClient.CommandLine

open Text (Loose)

/-- Whether an option says where the code comes from. -/
def Key.isSource (k : Key) : Bool := k = .code ∨ k = .codeFile ∨ k = .demo

variable {environmentEndpoint : Option String} {args : List Loose} {given : List (Key × Loose)}
  {c : Config} {files : Files} {r : Request}

/-! ## What is asked of a request -/

/-- What it means that a request uses all that is given, as it is. What is not given is the usual
mode, an empty input, or no name. -/
structure Uses (files : Files) (given : List (Key × Loose)) (r : Request) : Prop where
  mode : (given.lookup .mode).getD (.ofText Mode.bytecode.name) = .ofText r.mode.name
  code : ∀ value, given.lookup .code = some value → value = .ofText r.code
  /-- The code is all of the file. -/
  codeFile : ∀ path, given.lookup .codeFile = some path →
    files path = .ok (Text.Utf8.encode r.code.toList)
  demo : given.lookup .demo ≠ none → r.code = demoCode ∧ r.input = demoInput
  input : given.lookup .demo = none → (given.lookup .input).getD [] = .ofText r.input
  name : given.lookup .name = r.contractName.map .ofText
  source : ∃ key, key.isSource = true ∧ given.lookup key ≠ none

/-- What it means that there is no request for this reason. -/
inductive Lacks (files : Files) (given : List (Key × Loose)) : Run.Fault → Prop
  | source (h : ∀ key, key.isSource = true → given.lookup key = none) : Lacks files given .noCode
  | file {path why} (h : given.lookup .codeFile = some path) (hfile : files path = .error why) :
      Lacks files given (.unreadable path why)
  | text {path octets} (h : given.lookup .codeFile = some path) (hfile : files path = .ok octets)
      (htext : ∀ s, Text.Utf8.encode s ≠ octets) : Lacks files given (.unreadable path .notText)

/-! ## The request of an accepted command line -/

theorem Key.mem_sources {key : Key} (h : key.isSource = true) :
    key = .code ∨ key = .codeFile ∨ key = .demo := by
  simpa [isSource] using h

theorem Key.conflicts_of_isSource {a b : Key} (ha : a.isSource = true) (hb : b.isSource = true)
    (hab : a ≠ b) : a.conflicts b = true := by
  rcases mem_sources ha with rfl | rfl | rfl <;> rcases mem_sources hb with rfl | rfl | rfl <;>
    first | rfl | exact absurd rfl hab

namespace Accepted

/-- The sources that a configuration knows are those that are given. -/
theorem lookup_source (h : Accepted environmentEndpoint args given c) :
    given.lookup .code = c.code.map .ofText ∧ given.lookup .codeFile = c.codeFile ∧
      given.lookup .demo = if c.demo then some [] else none :=
  ⟨h.lookup_eq .code nofun rfl, h.lookup_eq .codeFile nofun rfl, h.lookup_eq .demo nofun rfl⟩

/-- If one source is given, all others are not. -/
theorem lookup_other (h : Accepted environmentEndpoint args given c) {a b : Key}
    (ha : given.lookup a ≠ none) (hsource : a.isSource = true) (hother : b.isSource = true)
    (hab : a ≠ b) : given.lookup b = none :=
  h.lookup_of_conflicts ha (Key.conflicts_of_isSource hsource hother hab)

theorem uses_demo (h : Accepted environmentEndpoint args given c) (hd : c.demo = true) :
    Uses files given ⟨c.mode, demoCode, demoInput, c.name⟩ := by
  have hdemo : given.lookup .demo ≠ none := by simp [h.lookup_source.2.2, hd]
  have hcode : given.lookup .code = none := h.lookup_other hdemo rfl rfl nofun
  have hfile : given.lookup .codeFile = none := h.lookup_other hdemo rfl rfl nofun
  exact {
    mode := h.lookup_getD .mode nofun rfl rfl
    code := by simp [hcode]
    codeFile := by simp [hfile]
    demo := fun _ => ⟨rfl, rfl⟩
    input := fun hnone => absurd hnone hdemo
    name := h.lookup_eq .name nofun rfl
    source := ⟨.demo, rfl, hdemo⟩ }

theorem uses_code (h : Accepted environmentEndpoint args given c) {code : String}
    (hc : c.code = some code) : Uses files given ⟨c.mode, code, c.input, c.name⟩ := by
  have hcode : given.lookup .code = some (.ofText code) := by rw [h.lookup_source.1, hc]; rfl
  have hgiven : given.lookup .code ≠ none := by simp [hcode]
  have hfile : given.lookup .codeFile = none := h.lookup_other hgiven rfl rfl nofun
  have hdemo : given.lookup .demo = none := h.lookup_other hgiven rfl rfl nofun
  exact {
    mode := h.lookup_getD .mode nofun rfl rfl
    code := fun value hvalue => Option.some.inj (hvalue.symm.trans hcode)
    codeFile := by simp [hfile]
    demo := fun hne => absurd hdemo hne
    input := fun _ => h.lookup_getD .input nofun rfl rfl
    name := h.lookup_eq .name nofun rfl
    source := ⟨.code, rfl, hgiven⟩ }

theorem uses_codeFile (h : Accepted environmentEndpoint args given c) {path : Loose}
    {text : List Char} (hf : c.codeFile = some path)
    (hfiles : files path = .ok (Text.Utf8.encode text)) :
    Uses files given ⟨c.mode, String.ofList text, c.input, c.name⟩ := by
  have hfile : given.lookup .codeFile = some path := h.lookup_source.2.1.trans hf
  have hgiven : given.lookup .codeFile ≠ none := by simp [hfile]
  have hcode : given.lookup .code = none := h.lookup_other hgiven rfl rfl nofun
  have hdemo : given.lookup .demo = none := h.lookup_other hgiven rfl rfl nofun
  exact {
    mode := h.lookup_getD .mode nofun rfl rfl
    code := by simp [hcode]
    codeFile := fun path' hpath => by
      obtain rfl : path = path' := Option.some.inj (hfile.symm.trans hpath)
      rw [hfiles, String.toList_ofList]
    demo := fun hne => absurd hdemo hne
    input := fun _ => h.lookup_getD .input nofun rfl rfl
    name := h.lookup_eq .name nofun rfl
    source := ⟨.codeFile, rfl, hgiven⟩ }

theorem lacks_source (h : Accepted environmentEndpoint args given c) (hd : c.demo = false)
    (hc : c.code = none) (hf : c.codeFile = none) : Lacks files given .noCode := by
  refine .source fun key hkey => ?_
  rcases Key.mem_sources hkey with rfl | rfl | rfl
  · rw [h.lookup_source.1, hc]
    rfl
  · rw [h.lookup_source.2.1, hf]
  · rw [h.lookup_source.2.2, hd]
    rfl

end Accepted

/-- **Nothing that is given is left out.** An accepted command line gives options, which its
arguments alone say, none of them twice, one source of code at most, and no call data with the
bundled contract. Whatever the files are, the request uses all that is given, or there is none
because no source is given or the file that is given has no text. -/
theorem request_uses_given {held : Option Loose} (h : read held args = .ok (.run c)) :
    ∃ given : List (Key × Loose),
      (∀ other, Written args other ↔ other = given) ∧ (given.map Prod.fst).Nodup ∧
      (∀ a ∈ given.map Prod.fst, ∀ b ∈ given.map Prod.fst,
        a.isSource = true → b.isSource = true → a = b) ∧
      ¬ (.input ∈ given.map Prod.fst ∧ .demo ∈ given.map Prod.fst) ∧
      ∀ files, match Run.request files c with
        | .ok r => Uses files given r
        | .error f => Lacks files given f := by
  obtain ⟨given, _, hgiven, -⟩ := exists_accepted h
  refine ⟨given, hgiven.unique, hgiven.nodup, ?_, ?_, ?_⟩
  · intro a ha b hb hsource hother
    by_contra hab
    have := hgiven.compatible a ha b hb
    rw [Key.conflicts_of_isSource hsource hother hab] at this
    cases this
  · rintro ⟨hinput, hdemo⟩
    exact absurd (hgiven.compatible _ hinput _ hdemo) (by decide)
  · intro files
    obtain ⟨built, hbuilt⟩ := Run.exists_built files c
    rw [Run.request_of_built hbuilt]
    cases hbuilt with
    | demo hd => exact hgiven.uses_demo hd
    | given hd hc => exact hgiven.uses_code hc
    | file hd hc hf hb ht =>
      have hoctets := Text.Utf8.decode?_eq_some_iff.mp ht
      exact hgiven.uses_codeFile hf (hoctets ▸ hb)
    | noCode hd hc hf => exact hgiven.lacks_source hd hc hf
    | unreadable hd hc hf hb => exact .file (hgiven.lookup_source.2.1.trans hf) hb
    | notText hd hc hf hb ht =>
      refine .text (hgiven.lookup_source.2.1.trans hf) hb fun s hs => ?_
      rw [Text.Utf8.decode?_eq_some_iff.mpr hs] at ht
      cases ht

/-- A file is read as the code, and an input that looks like an option is an input. -/
theorem request_uses_codeFile :
    let args := ["--mode", "solidity", "--code-file=a.sol", "--input=--demo"].map Loose.ofText
    let c : Config :=
      { mode := .solidity, codeFile := some (.ofText "a.sol"), input := "--demo", endpoint := "" }
    let files : Files := fun path =>
      if path = .ofText "a.sol" then .ok (Text.Utf8.encode "// é".toList) else .error .missing
    let r : Request := ⟨.solidity, "// é", "--demo", none⟩
    read (some []) args = .ok (.run c) ∧ Run.request files c = .ok r ∧
      ∃ given, Written args given ∧ Uses files given r := by
  intro args c files r
  have hread : read (some []) args = .ok (.run c) := by decide +kernel
  have hbuilt : Run.Built files c (.ok ⟨.solidity, String.ofList "// é".toList, "--demo", none⟩) :=
    .file rfl rfl rfl (if_pos rfl) (Text.Utf8.decode?_eq_some_iff.mpr rfl)
  have hrequest : Run.request files c = .ok r := by
    rw [Run.request_of_built hbuilt, String.ofList_toList]
  obtain ⟨given, hgiven, -, -, -, huses⟩ := request_uses_given hread
  have hr := huses files
  rw [hrequest] at hr
  exact ⟨hread, hrequest, given, (hgiven given).mpr rfl, hr⟩

end TaintClient.CommandLine
