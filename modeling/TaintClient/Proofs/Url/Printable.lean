/-
  Every URL is written in printable ASCII characters, whatever text it was read from and whatever
  URL that text was relative to. In most parts whatever is not printable is written by its octets
  (`printable_percentEncode`); the ASCII form of a domain name has only characters that stand in a
  name as they are (`Domain.printable_toAscii?`); and addresses are numbers.
-/
import TaintClient.Endpoint
import TaintClient.Proofs.Domain.Name
import TaintClient.Proofs.Text.OneLine

namespace TaintClient

open Text (Printable printable_nil printable_cons printable_append printable_decimal
  printable_hexDigits)

/-- The ASCII form of a name is printable. -/
theorem Domain.printable_toAscii? {s out : List Char} (h : toAscii? s = some out) :
    Printable out := by
  intro c hc
  have hname := (inName_of_toAscii? h c hc).lt_and_gt
  omega

namespace Url

variable {u v : Url} {base? : Option Url} {s t : List Char} {h : Host}

/-! ## Octets -/

theorem printable_writeOctet (b : UInt8) : Printable (writeOctet b) := by
  have hdigit : ∀ n < 16, 32 ≤ (capitalDigit n).toNat ∧ (capitalDigit n).toNat ≤ 126 := by decide
  have hb := b.toNat_lt
  simp only [writeOctet, printable_cons]
  exact ⟨by decide, hdigit _ (by omega), hdigit _ (by omega), printable_nil⟩

/-- Where everything that is not printable is written by its octets, what is written is
printable. -/
theorem printable_percentEncode {p : Char → Bool} (hp : ∀ c, inHost c = true → p c = true)
    (s : List Char) : Printable (percentEncode p s) := by
  refine List.forall_mem_flatMap.mpr fun c _ => ?_
  split
  · exact List.forall_mem_flatMap.mpr fun b _ => printable_writeOctet b
  · rename_i hc
    have hhost : inHost c = false := Bool.eq_false_iff.mpr fun h => hc (hp c h)
    simp only [inHost, Bool.or_eq_false_iff, decide_eq_false_iff_not] at hhost
    exact printable_cons.mpr ⟨by omega, printable_nil⟩

theorem inFragment_of_inHost (c : Char) (hc : inHost c = true) : inFragment c = true := by
  simp [inFragment, hc]

theorem inQuery_of_inHost (c : Char) (hc : inHost c = true) : inQuery c = true := by
  simp [inQuery, hc]

theorem inSpecialQuery_of_inHost (c : Char) (hc : inHost c = true) : inSpecialQuery c = true := by
  simp [inSpecialQuery, inQuery_of_inHost c hc]

theorem inPath_of_inHost (c : Char) (hc : inHost c = true) : inPath c = true := by
  simp [inPath, inFragment_of_inHost c hc]

theorem inUserinfo_of_inHost (c : Char) (hc : inHost c = true) : inUserinfo c = true := by
  simp [inUserinfo, inPath_of_inHost c hc]

/-! ## Hosts -/

theorem printable_writeIpv4 (n : Nat) : Printable (writeIpv4 n) := by
  refine Printable.intercalate (by decide) ?_
  exact List.forall_mem_map.mpr fun m _ => printable_decimal m

theorem printable_joinPieces (pieces : List Nat) : Printable (joinPieces pieces) := by
  refine Printable.intercalate (by decide) ?_
  exact List.forall_mem_map.mpr fun m _ => printable_hexDigits m

theorem printable_writeIpv6 (pieces : List Nat) : Printable (writeIpv6 pieces) := by
  unfold writeIpv6
  dsimp only
  split
  · exact printable_joinPieces pieces
  · simp only [printable_append]
    exact ⟨⟨printable_joinPieces _, by decide⟩, printable_joinPieces _⟩

theorem printable_readBracketed (hread : readBracketed s = .ok h) : Printable h.text := by
  unfold readBracketed at hread
  split at hread
  · split at hread
    · cases hread
      simp only [Host.text, printable_append, printable_cons]
      exact ⟨⟨by decide, printable_writeIpv6 _⟩, by decide⟩
    · cases hread
  · cases hread

theorem printable_readName (hread : readName s = .ok h) : Printable h.text := by
  unfold readName at hread
  split at hread
  · cases hread
  · rename_i name hname
    split at hread
    · cases hread
    · split at hread
      · split at hread
        · cases hread
          exact printable_writeIpv4 _
        · cases hread
      · cases hread
        exact Domain.printable_toAscii? hname

theorem printable_read (hread : Host.read s = .ok h) : Printable h.text := by
  unfold Host.read at hread
  split at hread
  · exact printable_readBracketed hread
  · exact printable_readName hread

theorem printable_readPlain (hread : Host.readPlain s = .ok h) : Printable h.text := by
  unfold Host.readPlain at hread
  split at hread
  · exact printable_readBracketed hread
  · split at hread
    · cases hread
    · cases hread
      exact printable_percentEncode (fun _ hc => hc) s

/-! ## URLs, part by part -/

/-- Whether a path is printable. -/
def Path.IsPrintable : Path → Prop
  | .rooted segments => ∀ s ∈ segments, Printable s
  | .rootless text => Printable text

/-- Whether every part of a URL is printable. -/
structure IsPrintable (u : Url) : Prop where
  scheme : Printable u.scheme.toList
  username : Printable u.username
  password : Printable u.password
  host : ∀ h ∈ u.host, Printable h.text
  path : u.path.IsPrintable
  query : ∀ s ∈ u.query, Printable s
  fragment : ∀ s ∈ u.fragment, Printable s

theorem printable_behind {sign : Char} (hsign : Printable [sign]) {part : Option (List Char)}
    (h : ∀ s ∈ part, Printable s) : Printable (behind sign part) := by
  cases part with
  | none => exact printable_nil
  | some s => exact printable_append.mpr ⟨hsign, h s rfl⟩

theorem Path.IsPrintable.text {p : Path} (h : p.IsPrintable) : Printable p.text := by
  cases p with
  | rooted segments =>
    exact List.forall_mem_flatMap.mpr fun s hs => printable_cons.mpr ⟨by decide, h s hs⟩
  | rootless text => exact h

theorem IsPrintable.userinfo (hu : u.IsPrintable) : Printable u.userinfoText := by
  unfold userinfoText
  split
  · exact printable_nil
  · simp only [printable_append]
    refine ⟨⟨hu.username, ?_⟩, by decide⟩
    split
    · exact printable_nil
    · exact printable_cons.mpr ⟨by decide, hu.password⟩

theorem IsPrintable.authority (hu : u.IsPrintable) : Printable u.authorityText := by
  have hport : Printable u.portText := by
    unfold portText
    split
    · exact printable_cons.mpr ⟨by decide, printable_decimal _⟩
    · exact printable_nil
  unfold authorityText
  split
  · rename_i host hhost
    simp only [printable_append, printable_cons, List.cons_append]
    exact ⟨by decide, by decide, ⟨hu.userinfo, hu.host host hhost⟩, hport⟩
  · decide
  · exact printable_nil

/-- A URL whose parts are printable is so as a whole. -/
theorem IsPrintable.text (hu : u.IsPrintable) : Printable u.text := by
  simp only [Url.text, target, printable_append, printable_cons]
  exact ⟨⟨⟨hu.scheme, by decide, hu.authority⟩, hu.path.text,
    printable_behind (by decide) hu.query⟩, printable_behind (by decide) hu.fragment⟩

/-- Such a URL is shown on one line. -/
theorem IsPrintable.oneLine (hu : u.IsPrintable) : Text.OneLine (toString u).toList := by
  have h : (toString u).toList = u.text := String.toList_ofList
  exact h ▸ hu.text.oneLine

theorem IsPrintable.withoutUserinfo (hu : u.IsPrintable) : u.withoutUserinfo.IsPrintable :=
  { hu with username := printable_nil, password := printable_nil }

theorem IsPrintable.withoutFragment (hu : u.IsPrintable) :
    IsPrintable { u with fragment := none } :=
  { hu with fragment := by simp }

/-! ## Schemes -/

theorem printable_of_isAlphanum {c : Char} (hc : c.isAlphanum = true) :
    32 ≤ c.toNat ∧ c.toNat ≤ 126 := by
  have hclass : (c.isUpper || c.isLower || c.isDigit) = true := hc
  have hupper : c.isUpper = decide ('A'.val ≤ c.val ∧ c.val ≤ 'Z'.val) := rfl
  have hlower : c.isLower = (decide ('a'.val ≤ c.val) && decide (c.val ≤ 'z'.val)) := rfl
  have hdigit : c.isDigit = (decide ('0'.val ≤ c.val) && decide (c.val ≤ '9'.val)) := rfl
  simp only [hupper, hlower, hdigit, Bool.or_eq_true, Bool.and_eq_true, decide_eq_true_eq,
    UInt32.le_iff_toNat_le] at hclass
  have hval : c.toNat = c.val.toNat := rfl
  have : 'A'.val.toNat = 65 := rfl
  have : 'Z'.val.toNat = 90 := rfl
  have : 'a'.val.toNat = 97 := rfl
  have : 'z'.val.toNat = 122 := rfl
  have : '0'.val.toNat = 48 := rfl
  have : '9'.val.toNat = 57 := rfl
  omega

theorem printable_toLower {c : Char} (hc : 32 ≤ c.toNat ∧ c.toNat ≤ 126) :
    32 ≤ c.toLower.toNat ∧ c.toLower.toNat ≤ 126 := by
  have hall : ∀ n < 127, 32 ≤ n →
      32 ≤ (Char.ofNat n).toLower.toNat ∧ (Char.ofNat n).toLower.toNat ≤ 126 := by decide
  have hlower := hall c.toNat (by omega) hc.1
  rwa [Char.ofNat_toNat] at hlower

theorem printable_readScheme? {scheme : String} (h : readScheme? s = some (scheme, t)) :
    Printable scheme.toList := by
  unfold readScheme? at h
  dsimp only at h
  split at h
  · split at h
    · cases h
      rw [String.toList_ofList]
      refine List.forall_mem_map.mpr fun c hc => printable_toLower ?_
      have hpart := List.all_eq_true.mp (List.all_takeWhile) c hc
      simp only [Bool.or_eq_true, decide_eq_true_eq] at hpart
      obtain ((hpart | rfl) | rfl) | rfl := hpart
      · exact printable_of_isAlphanum hpart
      all_goals decide
    · cases h
  · cases h

/-! ## Paths -/

theorem printable_segmentText (isFile isFirst : Bool) (s : List Char) :
    Printable (segmentText isFile isFirst s) := by
  unfold segmentText
  split
  · rename_i hdrive
    obtain ⟨-, -, hdrive⟩ := hdrive
    unfold isDrive at hdrive
    split at hdrive
    · rename_i letter sign
      have hletter : letter.isAlphanum = true := by
        simp only [Char.isAlphanum, (Bool.and_eq_true _ _ ▸ hdrive).1, Bool.true_or]
      have hcolon : Printable [':'] := by decide
      exact printable_cons.mpr ⟨printable_of_isAlphanum hletter, hcolon⟩
    · cases hdrive
  · exact printable_percentEncode inPath_of_inHost s

theorem dropSegment_subset (segments : List (List Char)) : dropSegment segments ⊆ segments := by
  unfold dropSegment
  split
  · exact List.Subset.refl _
  · exact List.dropLast_subset _

/-- Whatever the pieces of a path are, the segments that are made of them are printable. -/
theorem printable_addSegments (isFile : Bool) {segments : List (List Char)}
    (h : ∀ s ∈ segments, Printable s) (pieces : List (List Char)) :
    ∀ s ∈ addSegments isFile segments pieces, Printable s := by
  have hdrop {segments : List (List Char)} (h : ∀ s ∈ segments, Printable s) :
      ∀ s ∈ dropSegment segments, Printable s := fun s hs => h s (dropSegment_subset _ hs)
  have hadd {segments : List (List Char)} {last : List Char} (h : ∀ s ∈ segments, Printable s)
      (hlast : Printable last) : ∀ s ∈ segments ++ [last], Printable s :=
    List.forall_mem_append.mpr ⟨h, List.forall_mem_singleton.mpr hlast⟩
  fun_induction addSegments isFile segments pieces with
  | case1 => exact h
  | case2 => exact hadd (hdrop h) printable_nil
  | case3 => exact hadd h printable_nil
  | case4 => exact hadd h (printable_segmentText _ _ _)
  | case5 _ _ _ _ _ ih => exact ih (hdrop h)
  | case6 _ _ _ _ _ _ ih => exact ih h
  | case7 _ _ _ _ _ _ ih => exact ih (hadd h (printable_segmentText _ _ _))

theorem dropEmpty_subset (segments : List (List Char)) : dropEmpty segments ⊆ segments := by
  fun_induction dropEmpty segments with
  | case1 s rest ih => exact List.subset_cons_of_subset _ ih
  | case2 => exact List.Subset.refl _

theorem printable_readPath (scheme : String) {segments : List (List Char)}
    (h : ∀ s ∈ segments, Printable s) (s : List Char) :
    ∀ t ∈ readPath scheme segments s, Printable t := by
  have hall := printable_addSegments (decide (scheme = "file")) h
    (s.splitOnP (isSolidus (isSpecial scheme)))
  unfold readPath
  dsimp only
  split
  · exact fun t ht => hall t (dropEmpty_subset _ ht)
  · exact hall

theorem Path.IsPrintable.segments {p : Path} (h : p.IsPrintable) :
    ∀ s ∈ p.segments, Printable s := by
  cases p with
  | rooted segments => exact h
  | rootless text => exact List.forall_mem_nil _

theorem IsPrintable.withPathOf (hu : u.IsPrintable) {p : Path} (hp : p.IsPrintable) :
    IsPrintable { u with path := p } := { hu with path := hp }

/-! ## Reading on from a URL -/

theorem IsPrintable.withQuery (hu : u.IsPrintable) (s : List Char) :
    (u.withQuery s).IsPrintable := by
  refine { hu with query := ?_, fragment := ?_ }
  · intro q hq
    dsimp only [Url.withQuery] at hq
    split at hq
    · cases hq
      split
      · exact printable_percentEncode inSpecialQuery_of_inHost _
      · exact printable_percentEncode inQuery_of_inHost _
    · cases hq
  · intro f hf
    dsimp only [Url.withQuery] at hf
    split at hf
    · cases hf
      exact printable_percentEncode inFragment_of_inHost _
    · cases hf

theorem IsPrintable.withPath (hu : u.IsPrintable) {segments : List (List Char)}
    (h : ∀ s ∈ segments, Printable s) (s : List Char) : (u.withPath segments s).IsPrintable :=
  (hu.withPathOf (p := .rooted _) (printable_readPath u.scheme h (pathPart s))).withQuery s

theorem IsPrintable.withPathStart (hu : u.IsPrintable) (s : List Char) :
    (u.withPathStart s).IsPrintable := by
  have hnil : ∀ s ∈ ([] : List (List Char)), Printable s := List.forall_mem_nil _
  unfold Url.withPathStart
  split
  · split
    · exact hu.withPath hnil _
    · split
      · exact (hu.withPathOf (p := .rooted []) hnil).withQuery _
      · exact hu.withPath hnil _
  · split
    · exact hu.withPath hnil _
    · exact hu.withPathOf (p := .rooted []) hnil

theorem IsPrintable.withFragmentOf (hu : u.IsPrintable) (s : List Char) :
    (u.withFragmentOf s).IsPrintable := by
  refine { hu with fragment := ?_ }
  intro f hf
  cases hf
  exact printable_percentEncode inFragment_of_inHost s

theorem IsPrintable.readBeside (hu : u.IsPrintable) {segments : List (List Char)}
    (h : ∀ s ∈ segments, Printable s) (s : List Char) :
    (u.readBeside segments s).IsPrintable := by
  unfold Url.readBeside
  split
  · exact hu.withoutFragment
  · exact hu.withQuery _
  · exact hu.withFragmentOf _
  · exact hu.withPath h _

/-! ## Authorities -/

theorem givesOnly_readHost (scheme : String) (s : List Char) :
    GivesOnly (fun r => Printable r.1.text) (readHost scheme s) := by
  unfold readHost
  dsimp only
  split
  · exact givesOnly_error _
  · split
    · refine GivesOnly.bind (fun _ => printable_read) fun host hhost => ?_
      split
      · exact givesOnly_bind fun _ => givesOnly_ok hhost
      · exact givesOnly_ok hhost
    · refine GivesOnly.bind (fun _ => printable_readPlain) fun host hhost => ?_
      split
      · exact givesOnly_bind fun _ => givesOnly_ok hhost
      · exact givesOnly_ok hhost

theorem givesOnly_readAuthority {scheme : String} (hscheme : Printable scheme.toList)
    (s : List Char) : GivesOnly IsPrintable (readAuthority scheme s) := by
  unfold readAuthority
  dsimp only
  split
  · exact givesOnly_error _
  · refine (givesOnly_readHost scheme _).bind fun ⟨host, port, rest⟩ hhost => ?_
    dsimp only at hhost ⊢
    split
    · exact givesOnly_error _
    · refine givesOnly_ok (IsPrintable.withPathStart ⟨hscheme, ?_, ?_, ?_, ?_,
        by simp, by simp⟩ _)
      · exact printable_percentEncode inUserinfo_of_inHost _
      · exact printable_percentEncode inUserinfo_of_inHost _
      · rintro _ ⟨⟩
        exact hhost
      · exact List.forall_mem_nil _

/-! ## Files -/

theorem isPrintable_fileUrl (hh : Printable h.text) : (fileUrl h).IsPrintable :=
  have hfile : Printable "file".toList := by decide
  ⟨hfile, printable_nil, printable_nil, by rintro _ ⟨⟩; exact hh, List.forall_mem_nil _,
    by simp [fileUrl], by simp [fileUrl]⟩

theorem isPrintable_fileUrl_empty : (fileUrl .empty).IsPrintable :=
  isPrintable_fileUrl printable_nil

theorem isPrintable_filePath (hh : Printable h.text) (s : List Char) :
    (filePath h s).IsPrintable := by
  have hnone : ∀ s ∈ ([] : List (List Char)), Printable s := List.forall_mem_nil _
  have hu := (isPrintable_fileUrl hh).withPath hnone s
  unfold filePath
  dsimp only
  split
  · split
    · exact { hu with host := by rintro _ ⟨⟩; exact printable_nil }
    · exact hu
  · exact hu

theorem givesOnly_readFileHost (s : List Char) : GivesOnly IsPrintable (readFileHost s) := by
  have hempty (t : List Char) : ((fileUrl .empty).withPath [] t).IsPrintable :=
    isPrintable_fileUrl_empty.withPath (List.forall_mem_nil _) t
  unfold readFileHost
  dsimp only
  split
  · exact givesOnly_ok (hempty _)
  · split
    · exact givesOnly_ok (hempty _)
    · refine GivesOnly.bind (fun _ => printable_read) fun host hhost => ?_
      split
      · exact givesOnly_ok (hempty _)
      · split
        · exact givesOnly_ok (isPrintable_filePath hhost _)
        · exact givesOnly_ok (isPrintable_filePath hhost _)

theorem isPrintable_fileFromRoot (hb : ∀ b ∈ base?, b.IsPrintable) (s : List Char) :
    (fileFromRoot base? s).IsPrintable := by
  have hnil : ∀ s ∈ ([] : List (List Char)), Printable s := List.forall_mem_nil _
  unfold fileFromRoot
  dsimp only
  split
  · exact isPrintable_fileUrl_empty.withPath hnil s
  · split
    · exact isPrintable_fileUrl_empty.withPath hnil s
    · rename_i b
      have hb := hb b rfl
      have hhost : Printable (b.host.getD .empty).text := by
        cases hhost : b.host with
        | none => exact printable_nil
        | some host => exact hb.host host hhost
      split
      · rename_i first _ hpath
        split
        · refine isPrintable_fileUrl_empty.withPath (List.forall_mem_singleton.mpr ?_) s
          have hsegments := hb.path
          rw [hpath] at hsegments
          exact hsegments first List.mem_cons_self
        · exact (isPrintable_fileUrl hhost).withPath hnil s
      · exact (isPrintable_fileUrl hhost).withPath hnil s

theorem isPrintable_beside (hb : ∀ b ∈ base?, b.IsPrintable) (s : List Char) :
    (readFile.beside base? s).IsPrintable := by
  have hempty : ((fileUrl .empty).withPath [] s).IsPrintable :=
    isPrintable_fileUrl_empty.withPath (List.forall_mem_nil _) s
  unfold readFile.beside
  split
  · exact hempty
  · rename_i b
    have hb := hb b rfl
    split
    · exact hempty
    · exact hb.readBeside (fun t ht => hb.path.segments t (dropSegment_subset _ ht)) s

theorem givesOnly_readFile (hb : ∀ b ∈ base?, b.IsPrintable) (s : List Char) :
    GivesOnly IsPrintable (readFile base? s) := by
  unfold readFile
  split
  · split
    · split
      · exact givesOnly_readFileHost _
      · exact givesOnly_ok (isPrintable_fileFromRoot hb _)
    · exact givesOnly_ok (isPrintable_beside hb _)
  · refine givesOnly_ok ?_
    split
    · exact isPrintable_fileFromRoot hb _
    · exact isPrintable_beside hb _
  · exact givesOnly_ok (isPrintable_beside hb _)

/-! ## Reading -/

theorem IsPrintable.givesOnly_readRelative (hu : u.IsPrintable) (s : List Char) :
    GivesOnly IsPrintable (u.readRelative s) := by
  unfold readRelative
  split
  · split
    · split
      · split
        · exact givesOnly_readAuthority hu.scheme _
        · exact givesOnly_readAuthority hu.scheme _
      · exact givesOnly_ok (hu.withPath (List.forall_mem_nil _) _)
    · refine givesOnly_ok (hu.readBeside (fun t ht => ?_) _)
      exact hu.path.segments t (List.dropLast_subset _ ht)
  · exact givesOnly_ok (hu.readBeside (List.forall_mem_nil _) _)

theorem givesOnly_readBehindScheme (hb : ∀ b ∈ base?, b.IsPrintable) {scheme : String}
    (hscheme : Printable scheme.toList) (s : List Char) :
    GivesOnly IsPrintable (readBehindScheme base? scheme s) := by
  have hsame : ∀ b ∈ base?.filter (·.scheme = scheme), b.IsPrintable := by
    intro b hmem
    exact hb b (Option.mem_filter_iff.mp hmem).1
  unfold readBehindScheme
  dsimp only
  split
  · exact givesOnly_readFile hsame s
  · split
    · split
      · rename_i b hbase
        split
        · exact (hsame b hbase).givesOnly_readRelative s
        · exact givesOnly_readAuthority hscheme _
      · exact givesOnly_readAuthority hscheme _
    · split
      · exact givesOnly_readAuthority hscheme _
      · have hbare : IsPrintable { scheme := scheme, path := .rootless [] } :=
          ⟨hscheme, printable_nil, printable_nil, by simp, printable_nil,
            by simp, by simp⟩
        split
        · exact givesOnly_ok (hbare.withPath (List.forall_mem_nil _) _)
        · have hpath := printable_percentEncode (fun _ hc => hc) (pathPart s)
          exact givesOnly_ok ((hbare.withPathOf (p := .rootless _) hpath).withQuery s)

theorem givesOnly_readFrom (hb : ∀ b ∈ base?, b.IsPrintable) (s : List Char) :
    GivesOnly IsPrintable (readFrom base? s) := by
  unfold readFrom
  dsimp only
  split
  · rename_i hscheme
    exact givesOnly_readBehindScheme hb (printable_readScheme? hscheme) _
  · split
    · exact givesOnly_error _
    · rename_i b
      have hb' := hb b rfl
      split
      · exact givesOnly_ok (hb'.withFragmentOf _)
      · exact givesOnly_error _
      · split
        · exact givesOnly_readFile hb _
        · exact hb'.givesOnly_readRelative _

/-- A URL that is read from a text is printable. -/
theorem isPrintable_parse {s : String} (h : parse s = .ok u) : u.IsPrintable :=
  givesOnly_readFrom (by simp) s.toList u h

/-- So is one that a text stands for in a document at such a URL. -/
theorem IsPrintable.join (hu : u.IsPrintable) {s : String} (h : u.join s = .ok v) :
    v.IsPrintable := by
  have hbase : ∀ b ∈ some u, b.IsPrintable := by
    rintro _ ⟨⟩
    exact hu
  exact givesOnly_readFrom hbase s.toList v h

end Url

/-- Every endpoint is printable. -/
theorem isPrintable_endpoint {base : String} {u : Url} (h : endpoint base = .ok u) :
    u.IsPrintable := by
  obtain ⟨v, hv, hu⟩ := bind_eq_ok.mp h
  exact (Url.isPrintable_parse hv).join hu

end TaintClient
