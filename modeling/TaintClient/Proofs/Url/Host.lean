/-
  Hosts that are written down and read again. What `Host.read` gives is a name that is its own ASCII
  form and no number, or an address (`Host.IsProper`), and the text of such a host is read as that
  host (`Host.read_text`). In a longer text it ends where the authority or the port begins
  (`splitHost_text`).
-/
import TaintClient.Proofs.Domain.Name
import TaintClient.Proofs.Url.Address
import TaintClient.Proofs.Url.Percent
import TaintClient.Url.Reader

namespace TaintClient.Url

open Domain (InName)

variable {s t name : List Char} {h : Host}

/-- The hosts of URLs whose hosts are domain names. -/
inductive Host.IsProper : Host → Prop
  | domain {name : List Char} (hascii : Domain.toAscii? name = some name) (hne : name ≠ [])
    (hnumber : endsInNumber name = false) : Host.IsProper (.domain name)
  | ipv4 {address : Nat} (hlt : address < 4294967296) : Host.IsProper (.ipv4 address)
  | ipv6 {pieces : List Nat} (h : IsAddress pieces) : Host.IsProper (.ipv6 pieces)

/-! ## What is read -/

theorem isProper_of_readBracketed (hread : readBracketed s = .ok h) : h.IsProper := by
  unfold readBracketed at hread
  split at hread
  · split at hread
    · cases hread
      exact .ipv6 (isAddress_of_readIpv6? ‹_›)
    · cases hread
  · cases hread

theorem isProper_of_readName (hread : readName s = .ok h) : h.IsProper := by
  unfold readName at hread
  split at hread
  · cases hread
  · rename_i name hname
    split at hread
    · cases hread
    · rename_i hne
      split at hread
      · split at hread
        · cases hread
          exact .ipv4 (lt_of_readIpv4? ‹_›)
        · cases hread
      · rename_i hnumber
        cases hread
        exact .domain (Domain.toAscii?_of_toAscii? hname) (by simpa using hne)
          (Bool.eq_false_iff.mpr hnumber)

/-- What is read is a proper host. -/
theorem Host.isProper_of_read (hread : Host.read s = .ok h) : h.IsProper := by
  unfold Host.read at hread
  split at hread
  · exact isProper_of_readBracketed hread
  · exact isProper_of_readName hread

/-! ## Reading what is written -/

/-- A name that is its own ASCII form is looked at as it is. -/
theorem decoded_of_toAscii? (h : Domain.toAscii? name = some name) :
    Domain.toAscii? (Text.Utf8.decodeLossy (percentDecode (Text.Utf8.encode name))) =
      some name := by
  have hpercent : '%' ∉ name := fun hmem => (Domain.inName_of_toAscii? h '%' hmem).ne rfl rfl
  rw [decodeLossy_percentDecode hpercent, h]

theorem readName_domain (h : Domain.toAscii? name = some name) (hne : name ≠ [])
    (hnumber : endsInNumber name = false) : readName name = .ok (.domain name) := by
  rw [readName, decoded_of_toAscii? h]
  dsimp only
  rw [List.isEmpty_eq_false_iff.mpr hne, if_neg Bool.false_ne_true, hnumber,
    if_neg Bool.false_ne_true]

theorem readName_ipv4 {address : Nat} (h : Domain.toAscii? name = some name) (hne : name ≠ [])
    (hnumber : endsInNumber name = true) (haddress : readIpv4? name = some address) :
    readName name = .ok (.ipv4 address) := by
  rw [readName, decoded_of_toAscii? h]
  dsimp only
  rw [List.isEmpty_eq_false_iff.mpr hne, if_neg Bool.false_ne_true, hnumber, if_pos rfl, haddress]

theorem toAscii?_writeIpv4 (n : Nat) : Domain.toAscii? (writeIpv4 n) = some (writeIpv4 n) := by
  have hdigit : ∀ d < 10, InName (Nat.digitChar d) ∧ Nat.digitChar d ≠ '.' := by decide
  refine Domain.toAscii?_of_inName ((octets n).map decimal) (List.cons_ne_nil _ _)
    (List.forall_mem_map.mpr fun m _ => Text.forall_mem_toDigits (by decide) hdigit m)
    (List.forall_mem_map.mpr fun m _ => Bool.eq_false_iff.mpr fun hbegins => ?_)
  have hx : 'x' ∈ decimal m :=
    (List.isPrefixOf_iff_prefix.mp hbegins).subset List.mem_cons_self
  exact absurd (isDigit_of_mem_decimal m 'x' hx) (by decide)

/-- The text of a host without brackets is a name that is its own ASCII form. -/
theorem read_of_toAscii? (h : Domain.toAscii? name = some name) :
    Host.read name = readName name := by
  refine if_neg fun hhead => ?_
  exact (Domain.inName_of_toAscii? h '[' (List.mem_of_mem_head? hhead)).ne rfl rfl

theorem writeIpv4_ne_nil (n : Nat) : writeIpv4 n ≠ [] := by
  intro hnil
  have hparts := addressParts_writeIpv4 n
  rw [hnil] at hparts
  exact absurd hparts (List.cons_ne_nil _ _).symm

/-- **A proper host is read from its text.** -/
theorem Host.read_text (hproper : h.IsProper) : Host.read h.text = .ok h := by
  cases hproper with
  | domain hascii hne hnumber =>
    rw [Host.text, read_of_toAscii? hascii, readName_domain hascii hne hnumber]
  | @ipv4 address hlt =>
    have hascii := toAscii?_writeIpv4 address
    rw [Host.text, read_of_toAscii? hascii, readName_ipv4 hascii (writeIpv4_ne_nil address)
      (endsInNumber_writeIpv4 address) (readIpv4?_writeIpv4 hlt)]
  | @ipv6 pieces hpieces =>
    have hlast : ('[' :: writeIpv6 pieces ++ [']']).getLast? = some ']' :=
      List.getLast?_concat
    have hinner : (('[' :: writeIpv6 pieces ++ [']']).drop 1).dropLast = writeIpv6 pieces :=
      List.dropLast_concat
    rw [Host.text, Host.read, if_pos (by rfl), readBracketed, if_pos hlast, hinner,
      readIpv6?_writeIpv6 hpieces]

/-! ## The text of a host -/

theorem Host.text_ne_nil (hproper : h.IsProper) : h.text ≠ [] := by
  cases hproper with
  | domain hascii hne hnumber => exact hne
  | ipv4 hlt => exact writeIpv4_ne_nil _
  | ipv6 hpieces => exact List.cons_ne_nil _ _

theorem forall_mem_writeIpv6 {P : Char → Prop} (hcolon : P ':')
    (hdigit : ∀ d < 16, P (Nat.digitChar d)) (pieces : List Nat) :
    ∀ c ∈ writeIpv6 pieces, P c := by
  have hjoin (pieces : List Nat) : ∀ c ∈ joinPieces pieces, P c :=
    Text.forall_mem_intercalate (List.forall_mem_singleton.mpr hcolon)
      (List.forall_mem_map.mpr fun n _ => Text.forall_mem_toDigits (by decide) hdigit n)
  unfold writeIpv6
  dsimp only
  split
  · exact hjoin pieces
  · rw [List.forall_mem_append, List.forall_mem_append]
    exact ⟨⟨hjoin _, List.forall_mem_cons.mpr ⟨hcolon, List.forall_mem_singleton.mpr hcolon⟩⟩,
      hjoin _⟩

/-- Whether a character stands neither for the end of an authority nor behind a user. -/
def InAuthority (c : Char) : Prop := endsAuthority true c = false ∧ c ≠ '@'

instance : DecidablePred InAuthority := fun _ => inferInstanceAs (Decidable (_ ∧ _))

theorem inAuthority_of_inName {c : Char} (hc : InName c) : InAuthority c := by
  refine ⟨?_, hc.ne rfl⟩
  simp [endsAuthority, isSolidus, hc.ne (d := '/') rfl, hc.ne (d := '\\') rfl,
    hc.ne (d := '?') rfl, hc.ne (d := '#') rfl]

theorem Host.inAuthority_text (hproper : h.IsProper) : ∀ c ∈ h.text, InAuthority c := by
  cases hproper with
  | domain hascii hne hnumber =>
    exact fun c hc => inAuthority_of_inName (Domain.inName_of_toAscii? hascii c hc)
  | ipv4 hlt =>
    exact fun c hc => inAuthority_of_inName (Domain.inName_of_toAscii? (toAscii?_writeIpv4 _) c hc)
  | ipv6 hpieces =>
    have hinner := forall_mem_writeIpv6 (P := InAuthority) (by decide) (by decide)
    exact List.forall_mem_append.mpr
      ⟨List.forall_mem_cons.mpr ⟨by decide, hinner _⟩, List.forall_mem_singleton.mpr (by decide)⟩

theorem splitHost_append {special bracketed : Bool}
    (hs : ∀ c ∈ s, endsAuthority special c = false ∧ c ≠ '[' ∧ c ≠ ']' ∧
      (c = ':' → bracketed = true)) (t : List Char) :
    splitHost special bracketed (s ++ t) =
      (s ++ (splitHost special bracketed t).1, (splitHost special bracketed t).2) := by
  induction s with
  | nil => rfl
  | cons c s ih =>
    obtain ⟨⟨hend, hopen, hclose, hcolon⟩, hs⟩ := List.forall_mem_cons.mp hs
    have hgo : ¬ (endsAuthority special c = true ∨ c = ':' ∧ ¬ bracketed = true) := by
      rw [hend]
      rintro (h | ⟨rfl, h⟩)
      · cases h
      · exact h (hcolon rfl)
    rw [List.cons_append, splitHost, if_neg hgo, if_neg hopen, if_neg hclose, ih hs]
    rfl

/-- Whether a text begins with what a host ends at. -/
def EndsHost (t : List Char) : Prop := ∀ c, t.head? = some c → endsAuthority true c = true ∨ c = ':'

theorem splitHost_of_endsHost (ht : EndsHost t) : splitHost true false t = ([], t) := by
  cases t with
  | nil => rfl
  | cons c t => exact if_pos ((ht c rfl).imp_right fun hc => ⟨hc, Bool.false_ne_true⟩)

/-- A host is split from what follows it. -/
theorem splitHost_text (hproper : h.IsProper) (ht : EndsHost t) :
    splitHost true false (h.text ++ t) = (h.text, t) := by
  have hname {name : List Char} (hascii : Domain.toAscii? name = some name) :
      splitHost true false (name ++ t) = (name, t) := by
    rw [splitHost_append fun c hc => ?_, splitHost_of_endsHost ht, List.append_nil]
    have hc := Domain.inName_of_toAscii? hascii c hc
    exact ⟨(inAuthority_of_inName hc).1, hc.ne rfl, hc.ne rfl, fun heq => absurd heq (hc.ne rfl)⟩
  cases hproper with
  | domain hascii hne hnumber => exact hname hascii
  | ipv4 hlt => exact hname (toAscii?_writeIpv4 _)
  | @ipv6 pieces hpieces =>
    have hinner : ∀ c ∈ writeIpv6 pieces, endsAuthority true c = false ∧ c ≠ '[' ∧ c ≠ ']' ∧
        (c = ':' → true = true) :=
      forall_mem_writeIpv6 (by decide) (by decide) pieces
    have hopen : endsAuthority true '[' = false := by decide
    have hclose : endsAuthority true ']' = false := by decide
    have hbracket : splitHost true true (']' :: t) = (']' :: [], t) := by
      rw [splitHost, hclose, if_neg (by simp), if_neg (by decide), if_pos rfl,
        splitHost_of_endsHost ht]
    rw [Host.text, List.append_assoc, List.cons_append, splitHost, hopen, if_neg (by simp),
      if_pos rfl, List.singleton_append, splitHost_append hinner, hbracket]
    rfl

end TaintClient.Url
