import ServiceClient.Proofs.DnsName
import ServiceClient.Proofs.EndpointPath

/-!
# Endpoints with the name of a host

An endpoint whose host is a name in the domain name system can be the endpoint of every request:
its scheme, its host and its port are read, and read again in their plain form.

* `Url.parse_authority`: a URL up to its authority.
* `DnsEndpoint`: an endpoint of such a host, with whatever follows it.
* `DnsEndpoint.reads`: its parts are those of a request.
* `Operation.PathReadsAt`: a path at such an endpoint has an address if it can be read.
-/

namespace ServiceClient

namespace Url

theorem lt_of_isSchemeChar {c : Char} (h : isSchemeChar c = true) : c.toNat < 128 := by
  unfold isSchemeChar at h
  simp only [Bool.or_eq_true, decide_eq_true_eq] at h
  rcases h with ((h | rfl) | rfl) | rfl
  · exact lt_of_isUnreserved (isUnreserved_of_isAlphanum h)
  · decide
  · decide
  · decide

/-- A scheme stays one in lower case. -/
theorem IsSchemeText.lower {scheme : List Char} (h : IsSchemeText scheme) :
    IsSchemeText (scheme.map Char.toLower) := by
  obtain ⟨c, rest, rfl, hc, hrest⟩ := h
  refine ⟨c.toLower, rest.map Char.toLower, rfl, ?_, ?_⟩
  · refine kind_toLower (p := Char.isAlpha) (fun d hd => ?_) (by decide) hc
    refine lt_of_isUnreserved (isUnreserved_of_isAlphanum ?_)
    unfold Char.isAlphanum
    rw [hd]
    rfl
  · rw [List.all_eq_true] at hrest ⊢
    intro d hd
    obtain ⟨b, hb, rfl⟩ := List.mem_map.1 hd
    exact kind_toLower (fun _ => lt_of_isSchemeChar) (by decide) (hrest b hb)

theorem IsSchemeText.ne_nil {scheme : List Char} (h : IsSchemeText scheme) : scheme ≠ [] := by
  obtain ⟨c, rest, rfl, -⟩ := h
  exact List.cons_ne_nil c rest

/-- A URL of an authority only. -/
theorem text_authority {scheme authority : String} (hscheme : scheme ≠ "")
    (hauthority : authority ≠ "") :
    text ⟨scheme, authority, "", "", ""⟩ = scheme ++ "://" ++ authority := by
  have hcolon : scheme ++ ":" ++ ("//" ++ authority) = scheme ++ "://" ++ authority := by
    refine String.toList_inj.1 ?_
    simp
  unfold text
  simp [hscheme, hauthority, hcolon]

theorem checkBrackets_none {authority : List Char} (hleft : '[' ∉ authority)
    (hright : ']' ∉ authority) : checkBrackets authority = .ok () := by
  have hl : authority.contains '[' = false := by
    rw [← Bool.not_eq_true, List.contains_iff_mem]
    exact hleft
  have hr : authority.contains ']' = false := by
    rw [← Bool.not_eq_true, List.contains_iff_mem]
    exact hright
  unfold checkBrackets
  rw [hl, hr]
  rfl

/-- **A URL with an authority is read**: its scheme is in lower case, and without anything behind
the authority the other parts are empty. -/
theorem parse_authority {scheme authority tail : List Char} (hscheme : IsSchemeText scheme)
    (hauthority : IsHostText authority) (hbrackets : checkBrackets authority = .ok ())
    (hmarks : checkMarks authority = .ok ()) (htail : EndsAuthority tail) :
    ∃ u, parse (String.ofList (scheme ++ ':' :: '/' :: '/' :: (authority ++ tail))) = .ok u ∧
      u.scheme = String.ofList (scheme.map Char.toLower) ∧
      u.authority = String.ofList authority ∧
      (tail = [] → u.path = "" ∧ u.query = "" ∧ u.fragment = "") := by
  -- what is dropped of a URL is behind the authority, whose end stays
  obtain ⟨tail', htail', hempty, hkept⟩ : ∃ tail', EndsAuthority tail' ∧ (tail = [] → tail' = []) ∧
      ((scheme ++ ':' :: '/' :: '/' :: (authority ++ tail)).dropWhile isLeading).filter
        (fun c => !isDropped c) = scheme ++ ':' :: '/' :: '/' :: (authority ++ tail') := by
    refine ⟨tail.filter fun c => !isDropped c, ?_, ?_, ?_⟩
    · rcases htail with rfl | ⟨c, rest, rfl, hc⟩
      · exact .inl rfl
      · refine .inr ⟨c, _, List.filter_cons_of_pos ?_, hc⟩
        rcases hc with rfl | rfl | rfl <;> decide
    · rintro rfl
      rfl
    · have hs : scheme.filter (fun c => !isDropped c) = scheme := by
        rw [List.filter_eq_self]
        intro c hc
        rw [not_isDropped rfl rfl rfl (hscheme.all c hc)]
        rfl
      have ha : authority.filter (fun c => !isDropped c) = authority := by
        rw [List.filter_eq_self]
        intro c hc
        rw [(hauthority c hc).2.2.2]
        rfl
      have hmarks : ∀ s : List Char, (':' :: '/' :: '/' :: s).filter (fun c => !isDropped c) =
          ':' :: '/' :: '/' :: s.filter fun c => !isDropped c := fun s => rfl
      rw [hscheme.dropWhile_isLeading, List.filter_append, hs, hmarks, List.filter_append, ha]
  unfold parse
  rw [String.toList_ofList, hkept]
  simp only [takeScheme_of_scheme hscheme, takeAuthority_of_host hauthority htail', hbrackets,
    hmarks]
  refine ⟨_, rfl, rfl, rfl, fun h => ?_⟩
  rw [hempty h]
  exact ⟨rfl, rfl, rfl⟩

/-- The user information of an endpoint has no marks of other parts, and no variants of marks. -/
structure IsUserText (info : List Char) : Prop where
  isHostText : IsHostText info
  left_notMem : '[' ∉ info
  right_notMem : ']' ∉ info
  notVariant : ∀ c ∈ info, c ∉ markVariants

/-- The digits of a port, as many as an integer may have at most. -/
structure IsPortText (digits : List Char) : Prop where
  isDigit : ∀ c ∈ digits, c.isDigit = true
  length_le : digits.length ≤ maxIntegerDigits
  number_le : Nat.ofDigitChars 10 digits 0 ≤ 65535

end Url

/-- An endpoint whose host is a name. -/
structure DnsEndpoint where
  scheme : List Char
  /-- The user information in front of an at sign, if there is any. -/
  user : Option (List Char)
  host : List Char
  /-- The digits of the port, if one is written. -/
  port : Option (List Char)
  /-- Path, query and fragment. -/
  tail : List Char
  isScheme : Url.IsSchemeText scheme
  isUser : ∀ info, user = some info → Url.IsUserText info
  isHost : HostName.IsDnsName host
  isPort : ∀ digits, port = some digits → Url.IsPortText digits
  endsAuthority : Url.EndsAuthority tail

namespace DnsEndpoint

/-- A colon and the port, if one is written. -/
def portText (e : DnsEndpoint) : List Char := e.port.elim [] fun digits => ':' :: digits

/-- The user information with its at sign, if there is any. -/
def userText (e : DnsEndpoint) : List Char := e.user.elim [] fun info => info ++ ['@']

def authority (e : DnsEndpoint) : List Char := e.userText ++ (e.host ++ e.portText)

def text (e : DnsEndpoint) : String :=
  String.ofList (e.scheme ++ ':' :: '/' :: '/' :: (e.authority ++ e.tail))

/-- The number of the port, if it has digits. -/
def portNumber (e : DnsEndpoint) : Option Nat :=
  if (e.port.getD []).isEmpty then none else some (Nat.ofDigitChars 10 (e.port.getD []) 0)

variable {e : DnsEndpoint}

/-- Neither host nor port have a mark of another part. -/
theorem mem_hostPort {c : Char} (h : c ∈ e.host ++ e.portText) :
    Percent.isUnreserved c = true ∨ c = ':' := by
  rcases List.mem_append.1 h with h | h
  · exact .inl (e.isHost.isUnreserved c h)
  · unfold portText at h
    cases hport : e.port with
    | none =>
      rw [hport] at h
      cases h
    | some digits =>
      rw [hport] at h
      rcases List.mem_cons.1 h with rfl | h
      · exact .inr rfl
      · have hdigit := (e.isPort digits hport).isDigit c h
        refine .inl (isUnreserved_of_isAlphanum ?_)
        unfold Char.isAlphanum
        rw [hdigit, Bool.or_true]

theorem ne_of_mem_hostPort {c d : Char} (h : c ∈ e.host ++ e.portText)
    (hd : Percent.isUnreserved d = false) (hcolon : d ≠ ':') : c ≠ d := by
  rcases mem_hostPort h with h | rfl
  · exact ne_of_kind h hd
  · exact hcolon.symm

/-- The text is read, with scheme and authority as they are written. -/
theorem parse_text (e : DnsEndpoint) : ∃ u, Url.parse e.text = .ok u ∧
    u.scheme = String.ofList (e.scheme.map Char.toLower) ∧
    u.authority = String.ofList e.authority ∧
    (e.tail = [] → u.path = "" ∧ u.query = "" ∧ u.fragment = "") := by
  have hhost : Url.IsHostText (e.host ++ e.portText) := by
    intro c hc
    refine ⟨ne_of_mem_hostPort hc (by decide) (by decide),
      ne_of_mem_hostPort hc (by decide) (by decide),
      ne_of_mem_hostPort hc (by decide) (by decide), ?_⟩
    rcases mem_hostPort hc with hc | rfl
    · exact Url.not_isDropped rfl rfl rfl hc
    · decide
  have hplain : ∀ c ∈ e.host ++ e.portText, c ∉ Url.markVariants := by
    intro c hc
    rcases mem_hostPort hc with hc | rfl
    · exact Url.notMem_markVariants (lt_of_isUnreserved hc)
    · decide
  -- neither user information nor host and port have a mark that ends or splits an authority
  have hauthority : ∀ c ∈ e.authority,
      (c ≠ '/' ∧ c ≠ '?' ∧ c ≠ '#' ∧ Url.isDropped c = false) ∧ c ≠ '[' ∧ c ≠ ']' ∧
        c ∉ Url.markVariants := by
    intro c hc
    rcases List.mem_append.1 hc with hc | hc
    · unfold userText at hc
      cases huser : e.user with
      | none =>
        rw [huser] at hc
        cases hc
      | some info =>
        rw [huser] at hc
        rcases List.mem_append.1 hc with hc | hc
        · have hinfo := e.isUser info huser
          exact ⟨hinfo.isHostText c hc, ne_of_mem_of_not_mem hc hinfo.left_notMem,
            ne_of_mem_of_not_mem hc hinfo.right_notMem, hinfo.notVariant c hc⟩
        · rw [List.mem_singleton.1 hc]
          decide
    · exact ⟨hhost c hc, ne_of_mem_hostPort hc (by decide) (by decide),
        ne_of_mem_hostPort hc (by decide) (by decide), hplain c hc⟩
  exact Url.parse_authority e.isScheme (fun c hc => (hauthority c hc).1)
    (Url.checkBrackets_none (fun hmem => (hauthority _ hmem).2.1 rfl)
      fun hmem => (hauthority _ hmem).2.2.1 rfl)
    (Url.checkMarks_of_none fun c hc => (hauthority c hc).2.2.2) e.endsAuthority

section Authority

variable {u : Url} (hu : u.authority = String.ofList e.authority)

include hu

/-- The user information is split off at its at sign. -/
theorem splitLast_authority : splitLast (· = '@') u.authority.toList =
    (e.user, e.host ++ e.portText) := by
  have hat : ∀ c ∈ e.host ++ e.portText, decide (c = '@') = false := fun c hc =>
    decide_eq_false (ne_of_mem_hostPort hc (by decide) (by decide))
  rw [hu, String.toList_ofList]
  unfold authority userText
  cases e.user with
  | none => exact Url.splitLast_none hat
  | some info =>
    show splitLast _ (info ++ ['@'] ++ (e.host ++ e.portText)) = _
    rw [List.append_assoc]
    exact Url.splitLast_of_mark hat (by decide)

theorem hostAndPortTexts_eq : u.hostAndPortTexts = (e.host, e.port.getD []) := by
  have hbracket : ∀ c ∈ e.host ++ e.portText, decide (c = '[') = false := fun c hc =>
    decide_eq_false (ne_of_mem_hostPort hc (by decide) (by decide))
  have hcolon : ∀ c ∈ e.host, decide (c = ':') = false := fun c hc =>
    decide_eq_false (ne_of_kind (e.isHost.isUnreserved c hc) (by decide))
  unfold Url.hostAndPortTexts Url.hostAndPort
  rw [splitLast_authority hu]
  dsimp only
  rw [Url.splitFirst_none hbracket]
  unfold portText
  cases e.port with
  | none =>
    dsimp only [Option.elim_none]
    rw [List.append_nil, Url.splitFirst_none hcolon]
  | some digits =>
    dsimp only [Option.elim_some]
    rw [Url.splitFirst_of_mark hcolon (by decide)]

theorem hostName_eq : u.hostName? = some (String.ofList (lowerChars e.host)) := by
  have hpercent : ∀ c ∈ e.host, (c != '%') = true := fun c hc =>
    bne_iff_ne.2 (ne_of_kind (e.isHost.isUnreserved c hc) (by decide))
  have hne : e.host.isEmpty = false := List.isEmpty_eq_false_iff.2 e.isHost.ne_nil
  unfold Url.hostName?
  rw [hostAndPortTexts_eq hu]
  dsimp only
  rw [hne, List.takeWhile_eq_self_iff.2 hpercent, List.dropWhile_eq_nil_iff.2 hpercent,
    List.append_nil]
  rfl

theorem port_eq : u.port? = .ok e.portNumber := by
  unfold Url.port? portNumber
  rw [hostAndPortTexts_eq hu]
  dsimp only
  cases hport : e.port with
  | none => rfl
  | some digits =>
    obtain ⟨hdigits, hlength, hle⟩ := e.isPort digits hport
    rw [Option.getD_some]
    by_cases hempty : digits.isEmpty = true
    · rw [if_pos hempty, if_pos hempty]
    · rw [if_neg hempty, if_neg hempty, if_pos (List.all_eq_true.2 hdigits),
        if_neg (Nat.not_lt.2 hlength), if_pos hle]

end Authority

theorem isUser_none (info : List Char) (h : none = some info) : Url.IsUserText info := by
  cases h

/-- The digits of a number of sixteen bits are those of a port. -/
theorem isPort_digits {port : Option Nat} (h : ∀ n, port = some n → n ≤ 65535)
    (digits : List Char) (hdigits : (port.map fun n => Nat.toDigits 10 n) = some digits) :
    Url.IsPortText digits := by
  obtain ⟨n, hn, rfl⟩ := Option.map_eq_some_iff.1 hdigits
  have hle := h n hn
  have hlength : (Nat.toDigits 10 n).length ≤ 5 :=
    (Nat.length_toDigits_le_iff (by decide) (by decide)).2 (by omega)
  refine ⟨fun c hc => Nat.isDigit_of_mem_toDigits (by decide) (by decide) hc, ?_, ?_⟩
  · exact Nat.le_trans hlength (by decide)
  · rw [Nat.ofDigitChars_ten_toDigits]
    exact hle

theorem portNumber_le {n : Nat} (h : e.portNumber = some n) : n ≤ 65535 := by
  unfold portNumber at h
  cases hport : e.port with
  | none =>
    rw [hport] at h
    cases h
  | some digits =>
    rw [hport, Option.getD_some] at h
    split at h
    · cases h
    · rw [← Option.some.inj h]
      exact (e.isPort digits hport).number_le

/-- The plain form: scheme and host in lower case, and the port unless it is zero. -/
def plain (e : DnsEndpoint) : DnsEndpoint where
  scheme := e.scheme.map Char.toLower
  user := none
  host := lowerChars e.host
  port := (e.portNumber.filter (· ≠ 0)).map fun n => Nat.toDigits 10 n
  tail := []
  isScheme := e.isScheme.lower
  isUser := isUser_none
  isHost := e.isHost.lower
  isPort := isPort_digits fun _ hn => e.portNumber_le (Option.filter_eq_some_iff.1 hn).1
  endsAuthority := .inl rfl

theorem text_plain (e : DnsEndpoint) : e.plain.text =
    String.ofList (e.scheme.map Char.toLower) ++ "://" ++ String.ofList (lowerChars e.host) ++
      String.ofList e.plain.portText := by
  refine String.toList_inj.1 ?_
  show (String.ofList (e.scheme.map Char.toLower ++ ':' :: '/' :: '/' ::
    ([] ++ (lowerChars e.host ++ e.plain.portText) ++ []))).toList = _
  simp

/-- A port as it is written behind a host: zero is left out. -/
def writtenPort (port : Option Nat) : String :=
  match port with
  | some n => if n = 0 then "" else ":" ++ toString n
  | none => ""

theorem writtenPort_filter (port : Option Nat) :
    writtenPort (port.filter (· ≠ 0)) = writtenPort port := by
  cases port with
  | none => rfl
  | some n =>
    by_cases hn : n = 0
    · rw [hn]
      rfl
    · rw [Option.filter_some, if_pos (decide_eq_true hn)]

/-- The port of the plain form is written as that of a request. -/
theorem portText_plain (e : DnsEndpoint) :
    writtenPort e.portNumber = String.ofList e.plain.portText := by
  show _ = String.ofList (((e.portNumber.filter (· ≠ 0)).map fun n => Nat.toDigits 10 n).elim []
    fun digits => ':' :: digits)
  cases e.portNumber with
  | none => rfl
  | some n =>
    by_cases hn : n = 0
    · rw [hn]
      rfl
    · have hport : writtenPort (some n) = ":" ++ toString n := if_neg hn
      rw [hport, Option.filter_some, if_pos (decide_eq_true hn), Option.map_some,
        Option.elim_some, ← toList_toString]
      have hcolon : (":" ++ toString n).toList = ':' :: (toString n).toList := by
        rw [String.toList_append]
        exact List.singleton_append
      rw [← hcolon, String.ofList_toList]

/-- The plain form has the port that it writes. -/
theorem portNumber_plain (e : DnsEndpoint) :
    e.plain.portNumber = e.portNumber.filter (· ≠ 0) := by
  show (if ((((e.portNumber.filter (· ≠ 0)).map fun n => Nat.toDigits 10 n)).getD []).isEmpty
    then none else some (Nat.ofDigitChars 10
      ((((e.portNumber.filter (· ≠ 0)).map fun n => Nat.toDigits 10 n)).getD []) 0)) = _
  cases e.portNumber.filter (· ≠ 0) with
  | none => rfl
  | some n =>
    rw [Option.map_some, Option.getD_some, Nat.ofDigitChars_ten_toDigits, if_neg]
    rw [List.isEmpty_iff]
    exact Nat.toDigits_ne_nil

/-- The base of a request at the endpoint is written in its plain form. -/
theorem baseText_parts {o : Operation} {path query : String} {u : Url} {headers : Headers}
    {body : Value} (hscheme : u.scheme = String.ofList (e.scheme.map Char.toLower))
    (hauthority : u.authority = String.ofList e.authority) :
    (o.parts path query u e.portNumber headers body).baseText = e.plain.text := by
  have hempty : u.scheme.isEmpty = false := by
    rw [hscheme, ← Bool.not_eq_true, String.isEmpty_iff]
    exact mt String.ofList_eq_empty_iff.1 e.isScheme.lower.ne_nil
  have hhost : u.hostName?.getD "None" = String.ofList (lowerChars e.host) := by
    rw [hostName_eq hauthority]
    rfl
  show (if u.scheme.isEmpty = true then "https" else u.scheme) ++ "://" ++
    u.hostName?.getD "None" ++ writtenPort e.portNumber = _
  rw [text_plain, ← portText_plain, hempty, hhost, hscheme]
  rfl

/-- The plain form is its own plain form. -/
theorem normalize_plain (e : DnsEndpoint) : Url.normalize e.plain.text = .ok e.plain.text := by
  obtain ⟨u, hu, hscheme, hauthority, hempty⟩ := e.plain.parse_text
  obtain ⟨hpath, hquery, hfragment⟩ := hempty rfl
  have hname : (u.hostName?.getD "").toList = lowerChars e.host := by
    rw [hostName_eq hauthority, Option.getD_some, String.toList_ofList]
    exact lowerChars_lowerChars e.isHost.ascii
  have hascii : (HostName.toAscii (u.hostName?.getD "").toList).mapError
      (fun f => Failure.url (.label f)) = .ok (lowerChars e.host) := by
    rw [hname, e.isHost.lower.toAscii]
    rfl
  refine bind_eq_ok.2 ⟨u, hu, bind_eq_ok.2 ⟨_, hascii, bind_eq_ok.2
    ⟨_, port_eq hauthority, congrArg Except.ok ?_⟩⟩⟩
  have huser : u.userInfo? = none := congrArg Prod.fst (splitLast_authority hauthority)
  have hcolon : (String.ofList (lowerChars e.host)).toList.contains ':' = false := by
    rw [String.toList_ofList, ← Bool.not_eq_true, List.contains_iff_mem]
    exact fun hmem => absurd (e.isHost.lower.isUnreserved _ hmem) (by decide)
  rw [hpath, hquery, hfragment, huser, hcolon, hscheme]
  show Url.text ⟨_, "" ++ String.ofList (lowerChars e.host) ++ writtenPort e.plain.portNumber, "",
    "", ""⟩ = _
  have hlower : e.plain.scheme.map Char.toLower = e.scheme.map Char.toLower :=
    map_toLower_ascii fun c hc => Url.lt_of_isSchemeChar (e.isScheme.all c hc)
  rw [portNumber_plain, writtenPort_filter, portText_plain, text_plain, hlower,
    Url.text_authority]
  · simp only [String.empty_append, String.append_assoc]
  · exact mt String.ofList_eq_empty_iff.1 e.isScheme.lower.ne_nil
  · rw [String.empty_append, ← String.ofList_append]
    refine mt String.ofList_eq_empty_iff.1 fun h => ?_
    exact e.isHost.lower.ne_nil (List.append_eq_nil_iff.1 h).1

/-- **An endpoint can be the endpoint of every request**: it is read, and so is its plain form,
which has neither query nor fragment. -/
theorem reads (e : DnsEndpoint) : ∃ target, Url.parse e.text = .ok target ∧
    ∃ port, target.port? = .ok port ∧ ∀ (o : Operation) path query headers body, ∃ base,
      (o.parts path query target port headers body).BaseReads base := by
  obtain ⟨target, htarget, hscheme, hauthority, -⟩ := e.parse_text
  refine ⟨target, htarget, e.portNumber, port_eq hauthority, fun o path query headers body => ?_⟩
  obtain ⟨base, hbase, -, -, hempty⟩ := e.plain.parse_text
  obtain ⟨-, hquery, hfragment⟩ := hempty rfl
  refine ⟨base, e.plain.text, ?_, hbase, hquery, hfragment⟩
  rw [baseText_parts hscheme hauthority]
  exact e.normalize_plain

/-- A host over HTTPS. -/
def overHttps (host : List Char) (h : HostName.IsDnsName host) : DnsEndpoint where
  scheme := "https".toList
  user := none
  host := host
  port := none
  tail := []
  isScheme := ⟨'h', "ttps".toList, rfl, by decide, by decide⟩
  isUser := isUser_none
  isHost := h
  isPort := by
    intro digits h
    cases h
  endsAuthority := .inl rfl

/-- The own host over HTTPS. -/
def localhost : DnsEndpoint :=
  overHttps "localhost".toList (.of_label ⟨by decide, by decide, List.all_eq_true.1 rfl⟩)

end DnsEndpoint

namespace Operation

/-- The path of an operation at an endpoint can be read as that of a URL. -/
def PathReadsAt (o : Operation) (path endpoint : String) : Prop :=
  ∃ target, Url.parse endpoint = .ok target ∧
    ∃ plain, (o.parts path "" target none [] .null).PathReads plain

variable {o : Operation} {path : String}

/-- Nothing but the path plays a part in reading it. -/
theorem pathReads_parts {query plain : String} {target : Url} {port : Option Nat}
    {headers : Headers} {body : Value} :
    (o.parts path query target port headers body).PathReads plain ↔
      (o.parts path "" target none [] .null).PathReads plain := Iff.rfl

/-- The root of a host can be read. -/
theorem pathReadsAt_root {e : DnsEndpoint} (htail : e.tail = []) : o.PathReadsAt "/" e.text := by
  obtain ⟨target, ht, -, -, hempty⟩ := e.parse_text
  obtain ⟨hpath, -, -⟩ := hempty htail
  have hjoin : Marshalling.joinPath target.path "/" = "/" := by
    rw [hpath]
    exact Marshalling.joinPath_of_slash rfl ""
  have hparse : Url.parse "/" = .ok ⟨"", "", "/", "", ""⟩ := rfl
  have hplain : Url.normalize "/" = .ok "/" := rfl
  refine ⟨target, ht, "/", ?_, ⟨"", "", "/", "", ""⟩, ?_, hplain⟩
  · show '?' ∉ (Marshalling.joinPath target.path "/").toList
    rw [hjoin]
    decide
  · show Url.parse (Marshalling.joinPath target.path "/") = _
    rw [hjoin]
    exact hparse

/-- A path that can be read has an address. -/
theorem hasAddress_of_reads {e : DnsEndpoint} (h : o.PathReadsAt path e.text) :
    o.HasAddress path e.text := by
  obtain ⟨target, ht, plain, hplain⟩ := h
  obtain ⟨target', ht', port, hport, hbase⟩ := e.reads
  obtain rfl : target' = target := Except.ok.inj (ht'.symm.trans ht)
  exact ⟨target', ht, port, hport, ⟨plain, pathReads_parts.2 hplain⟩, hbase o path "" [] .null⟩

end Operation

end ServiceClient
