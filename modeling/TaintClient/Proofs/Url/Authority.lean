/-
  Authorities that are written down and read again. What is read behind the two solidi of a URL of
  the web is a server (`IsServed`): a user and a password in which every sign is written by its
  octets, a proper host, and a port that does not go without saying. Of the text of such a URL each
  part is read as that part (`readAuthority_text`).
-/
import TaintClient.Proofs.Text.Parts
import TaintClient.Proofs.Url.Host

namespace TaintClient.Url

variable {u : Url} {scheme : String} {s t : List Char} {host : Host} {port? : Option Nat} {n : Nat}

/-! ## Schemes of the web -/

theorem IsWeb.isSpecial (h : IsWeb scheme) : isSpecial scheme = true := by
  obtain rfl | rfl := h <;> decide

theorem IsWeb.ne_file (h : IsWeb scheme) : scheme ≠ "file" := by
  obtain rfl | rfl := h <;> decide

/-! ## What is read -/

/-- Whether a port is one that is written: it is no greater than ports are, and no other port goes
without saying. -/
def IsWrittenPort (scheme : String) (port? : Option Nat) : Prop :=
  ∀ n, port? = some n → n ≤ 65535 ∧ defaultPort? scheme ≠ some n

/-- Whether a URL has a server, told by its parts as they are written. -/
structure IsServed (u : Url) : Prop where
  username : ∀ c ∈ u.username, inUserinfo c = false
  password : ∀ c ∈ u.password, inUserinfo c = false
  host : ∃ h, u.host = some h ∧ h.IsProper
  port : IsWrittenPort u.scheme u.port

theorem keepsOctets_inUserinfo : KeepsOctets inUserinfo := by
  constructor <;> decide

theorem isWrittenPort_readPort (h : readPort scheme s = .ok (port?, t)) :
    IsWrittenPort scheme port? := by
  unfold readPort at h
  dsimp only at h
  split at h
  · cases h
  · rename_i hok
    obtain ⟨rfl, -⟩ := Prod.mk.inj (Except.ok.inj h)
    intro n hn
    split at hn
    · cases hn
    · rename_i hwritten
      cases hn
      exact ⟨Nat.le_of_not_lt fun hlt => hok (.inl hlt), fun heq => hwritten (.inr heq)⟩

/-- A host and a port of a scheme whose hosts are domain names. -/
theorem isProper_readHost (hspecial : isSpecial scheme = true)
    (h : readHost scheme s = .ok (host, port?, t)) :
    host.IsProper ∧ IsWrittenPort scheme port? := by
  unfold readHost at h
  dsimp only at h
  split at h
  · cases h
  · obtain ⟨host', hread, h⟩ := bind_eq_ok.mp h
    split at h
    · obtain ⟨⟨port', rest⟩, hport, h⟩ := bind_eq_ok.mp h
      cases h
      exact ⟨Host.isProper_of_read hread, isWrittenPort_readPort hport⟩
    · cases h
      exact ⟨Host.isProper_of_read hread, nofun⟩

/-- A path changes nothing of what stands before it. -/
theorem exists_withPathStart (hspecial : isSpecial u.scheme = true) (s : List Char) :
    ∃ segments query fragment, u.withPathStart s =
      { u with path := .rooted segments, query := query, fragment := fragment } := by
  unfold withPathStart
  split
  · split
    · exact ⟨_, _, _, rfl⟩
    · split
      · rename_i hnot
        exact absurd hspecial hnot.1
      · exact ⟨_, _, _, rfl⟩
  · rw [if_pos hspecial]
    exact ⟨_, _, _, rfl⟩

/-- What is read behind the two solidi is a server with a path. -/
theorem isServed_readAuthority (hspecial : isSpecial scheme = true)
    (h : readAuthority scheme s = .ok u) :
    u.scheme = scheme ∧ u.IsServed ∧ ∃ segments, u.path = .rooted segments := by
  unfold readAuthority at h
  dsimp only at h
  split at h
  · cases h
  · obtain ⟨⟨host, port, rest⟩, hhost, h⟩ := bind_eq_ok.mp h
    obtain ⟨hproper, hport⟩ := isProper_readHost hspecial hhost
    dsimp only at h
    split at h
    · cases h
    · have hu := (Except.ok.inj h).symm
      obtain ⟨segments, query, fragment, hpath⟩ := exists_withPathStart
        (u := ⟨scheme, _, _, some host, port, .rooted [], none, none⟩) hspecial rest
      rw [hpath] at hu
      subst hu
      refine ⟨rfl, ⟨?_, ?_, ⟨host, rfl, hproper⟩, hport⟩, segments, rfl⟩
      · exact forall_mem_percentEncode keepsOctets_inUserinfo _
      · exact forall_mem_percentEncode keepsOctets_inUserinfo _

/-! ## Reading what is written -/

/-- What follows an authority: a path. -/
theorem readPort_decimal (h : IsWrittenPort scheme (some n)) (t : List Char) :
    readPort scheme (decimal n ++ '/' :: t) = .ok (some n, '/' :: t) := by
  obtain ⟨hle, hwritten⟩ := h n rfl
  have hstop : ∀ c, ('/' :: t).head? = some c → c.isDigit = false := by
    rintro _ ⟨⟩
    rfl
  have hdigits := isDigit_of_mem_decimal n
  have hnumber : (decimal n).foldl (fun n c => n * 10 + (c.toNat - 48)) 0 = n :=
    (Text.foldl_digits _ _).trans Nat.ofDigitChars_ten_toDigits
  have hempty : (decimal n).isEmpty = false := List.isEmpty_eq_false_iff.mpr Nat.toDigits_ne_nil
  rw [readPort, Text.takeWhile_append_of_head? hdigits hstop,
    Text.dropWhile_append_of_head? hdigits hstop, hnumber]
  have hfine : ¬ (65535 < n ∨ ¬ ('/' :: t).head?.all (endsAuthority true) = true) := by
    rintro (hlt | hend)
    · omega
    · exact hend rfl
  rw [if_neg hfine, hempty, if_neg]
  rintro (h | h)
  · cases h
  · exact hwritten h

theorem endsHost_portText (u : Url) (t : List Char) : EndsHost (u.portText ++ '/' :: t) := by
  unfold portText
  split
  · rintro _ ⟨⟩
    exact .inr rfl
  · rintro _ ⟨⟩
    exact .inl rfl

/-- The host and the port of a URL are read from its text. -/
theorem readHost_text (hspecial : isSpecial u.scheme = true) (hproper : host.IsProper)
    (hport : IsWrittenPort u.scheme u.port) (t : List Char) :
    readHost u.scheme (host.text ++ (u.portText ++ '/' :: t)) = .ok (host, u.port, '/' :: t) := by
  have hsplit := splitHost_text hproper (endsHost_portText u t)
  have hempty : host.text.isEmpty = false :=
    List.isEmpty_eq_false_iff.mpr (Host.text_ne_nil hproper)
  unfold readHost
  dsimp only
  rw [hspecial, hsplit]
  dsimp only
  rw [hempty, if_neg (fun h => Bool.false_ne_true h.1), if_pos rfl, Host.read_text hproper]
  unfold portText
  cases hu : u.port with
  | none => rfl
  | some n =>
    rw [hu] at hport
    refine bind_eq_ok.mpr ⟨host, rfl, bind_eq_ok.mpr ⟨_, readPort_decimal hport t, rfl⟩⟩

/-- What stands in front of the sign behind the user. -/
def userinfo (u : Url) : List Char :=
  u.username ++ if u.password.isEmpty then [] else ':' :: u.password

theorem readUserinfo_userinfo (h : u.IsServed) :
    readUserinfo u.userinfo = (u.username, u.password) := by
  have hcolon : ':' ∉ u.username := fun hmem => absurd (h.username ':' hmem) (by decide)
  have husername := percentEncode_of_forall h.username
  have hpassword := percentEncode_of_forall h.password
  unfold readUserinfo userinfo
  dsimp only
  cases hu : u.password with
  | nil =>
    rw [List.isEmpty_nil, if_pos rfl, List.append_nil, Text.takeWhile_of_not_mem hcolon, husername,
      List.dropWhile_eq_nil_iff.mpr (Text.forall_mem_ne hcolon)]
    rfl
  | cons c password =>
    rw [hu] at hpassword
    rw [List.isEmpty_cons, if_neg Bool.false_ne_true, Text.takeWhile_append_sign hcolon,
      Text.dropWhile_append_sign hcolon, husername]
    exact congrArg _ hpassword

/-- No sign of a user or a password has a meaning for the authority. -/
theorem inAuthority_of_inUserinfo {c : Char} (hc : inUserinfo c = false) : InAuthority c := by
  have hnot (d : Char) (hd : inUserinfo d = true) : c ≠ d := by
    rintro rfl
    rw [hc] at hd
    cases hd
  refine ⟨?_, hnot '@' rfl⟩
  simp [endsAuthority, isSolidus, hnot '/' rfl, hnot '\\' rfl, hnot '?' rfl, hnot '#' rfl]

theorem inAuthority_userinfo (h : u.IsServed) : ∀ c ∈ u.userinfo, InAuthority c := by
  refine List.forall_mem_append.mpr ⟨fun c hc => inAuthority_of_inUserinfo (h.username c hc), ?_⟩
  split
  · exact List.forall_mem_nil _
  · exact List.forall_mem_cons.mpr
      ⟨by decide, fun c hc => inAuthority_of_inUserinfo (h.password c hc)⟩

theorem inAuthority_portText (u : Url) : ∀ c ∈ u.portText, InAuthority c := by
  unfold portText
  split
  · exact List.forall_mem_cons.mpr
      ⟨by decide, Text.forall_mem_toDigits (by decide) (by decide) _⟩
  · exact List.forall_mem_nil _

theorem userinfoText_eq (u : Url) :
    u.userinfoText = [] ∧ u.userinfo = [] ∨
      u.userinfoText = u.userinfo ++ ['@'] ∧ u.userinfo.isEmpty = false := by
  unfold userinfoText userinfo
  cases u.username <;> cases u.password <;> simp

theorem Host.IsProper.ne_empty (h : host.IsProper) : host ≠ .empty := by
  rintro rfl
  exact Host.text_ne_nil h rfl

/-- Nothing in front of the path ends an authority. -/
theorem endsAuthority_front (h : u.IsServed) (hproper : host.IsProper) :
    ∀ c ∈ u.userinfoText ++ (host.text ++ u.portText), endsAuthority true c = false := by
  refine List.forall_mem_append.mpr
    ⟨?_, List.forall_mem_append.mpr ⟨fun c hc => ?_, fun c hc => ?_⟩⟩
  · obtain ⟨hnil, -⟩ | ⟨hsome, -⟩ := u.userinfoText_eq
    · rw [hnil]
      exact List.forall_mem_nil _
    · rw [hsome]
      exact List.forall_mem_append.mpr
        ⟨fun c hc => (inAuthority_userinfo h c hc).1, List.forall_mem_singleton.mpr (by decide)⟩
  · exact (Host.inAuthority_text hproper c hc).1
  · exact (inAuthority_portText u c hc).1

/-- **The authority of a URL is read from its text**, up to the path. -/
theorem readAuthority_text (hspecial : isSpecial u.scheme = true) (h : u.IsServed)
    (hhost : u.host = some host) (hproper : host.IsProper) (t : List Char) :
    readAuthority u.scheme (u.userinfoText ++ (host.text ++ (u.portText ++ '/' :: t))) =
      .ok (withPathStart { u with path := .rooted [], query := none, fragment := none }
        ('/' :: t)) := by
  have hsign : '@' ∉ host.text ++ u.portText := by
    intro hmem
    obtain hmem | hmem := List.mem_append.mp hmem
    · exact (Host.inAuthority_text hproper '@' hmem).2 rfl
    · exact (inAuthority_portText u '@' hmem).2 rfl
  have hfront : ∀ c ∈ u.userinfoText ++ (host.text ++ u.portText),
      (!endsAuthority true c) = true := by
    intro c hc
    rw [endsAuthority_front h hproper c hc]
    rfl
  have hstop : ∀ c, ('/' :: t).head? = some c → (!endsAuthority true c) = false := by
    rintro _ ⟨⟩
    rfl
  -- the host stands behind the last sign of the front, the user before it
  have hlast : ((u.userinfoText ++ (host.text ++ u.portText)).reverse.takeWhile
      (· ≠ '@')).reverse = host.text ++ u.portText := by
    obtain ⟨hnil, -⟩ | ⟨hsome, -⟩ := u.userinfoText_eq
    · rw [hnil]
      exact Text.behindLast_of_not_mem hsign
    · rw [hsome, List.append_assoc]
      exact Text.behindLast_append hsign _
  have huserinfo : (u.userinfoText ++ (host.text ++ u.portText)).take
      ((u.userinfoText ++ (host.text ++ u.portText)).length -
        (host.text ++ u.portText).length - 1) = u.userinfo := by
    rw [List.length_append, Nat.add_sub_cancel]
    obtain ⟨hnil, hinfo⟩ | ⟨hsome, -⟩ := u.userinfoText_eq
    · rw [hnil, hinfo]
      rfl
    · rw [hsome, List.length_append, List.length_singleton, Nat.add_sub_cancel, List.append_assoc,
        List.take_left]
  have hsome : ¬ ((host.text ++ u.portText).length <
      (u.userinfoText ++ (host.text ++ u.portText)).length ∧ u.userinfo.isEmpty = true ∧
      (host.text ++ u.portText ++ '/' :: t).head?.any (endsAuthority true) = true) := by
    rintro ⟨hlength, hempty, -⟩
    obtain ⟨hnil, -⟩ | ⟨-, hne⟩ := u.userinfoText_eq
    · rw [hnil] at hlength
      exact Nat.lt_irrefl _ hlength
    · rw [hempty] at hne
      cases hne
  have hassoc : u.userinfoText ++ (host.text ++ (u.portText ++ '/' :: t)) =
      u.userinfoText ++ (host.text ++ u.portText) ++ '/' :: t := by
    simp only [List.append_assoc]
  unfold readAuthority
  dsimp only
  rw [hassoc, hspecial, Text.takeWhile_append_of_head? hfront hstop,
    Text.dropWhile_append_of_head? hfront hstop, hlast, huserinfo, if_neg hsome,
    readUserinfo_userinfo h, List.append_assoc]
  refine bind_eq_ok.mpr ⟨_, readHost_text hspecial hproper h.port t, ?_⟩
  dsimp only
  rw [if_neg fun heq => hproper.ne_empty heq.1, hhost]
  rfl

end TaintClient.Url
