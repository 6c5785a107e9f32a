import ServiceClient.Proofs.AddressText
import ServiceClient.Proofs.DnsEndpoint
import ServiceClient.Proofs.RawPath

/-!
# The authority of an endpoint

Host and port of an endpoint reach the request: a name or an IPv4 address is sent as it is, with its
port unless the scheme implies it. An IPv6 address loses its brackets on the way, and what is behind
its first colon is then no port.

* `ServiceEndpoint`: an endpoint, with the URL of the root at it.
* `Request.host_of_server`: the host that a request is sent to.
* `ServiceEndpoint.parse_text`: an endpoint is read.
* `ServiceEndpoint.rawBaseUrl_of_make`: the URL of a request for the root at a name.
* `ServiceEndpoint.normalize_address`: an address without brackets is refused.
-/

namespace ServiceClient

/-- The host of an endpoint. -/
inductive EndpointHost
  /-- A name in the domain name system, or an IPv4 address. -/
  | name (s : List Char)
  /-- An IPv6 address, which stands in brackets. -/
  | address (s : List Char)

namespace EndpointHost

/-- The host without brackets. -/
def chars : EndpointHost → List Char
  | name s => s
  | address s => s

/-- The host as it stands in a URL. -/
def text : EndpointHost → List Char
  | name s => s
  | address s => '[' :: (s ++ [']'])

/-- A name has letters, digits and hyphens, and an address has no zone. -/
def IsValid : EndpointHost → Prop
  | name s => HostName.IsDnsName s ∧ '_' ∉ s
  | address s => Url.isIpv6 s = true ∧ '%' ∉ s

end EndpointHost

/-- A port as it is written behind a host. -/
def portChars (port : Option Nat) : List Char := port.elim [] fun n => ':' :: Nat.toDigits 10 n

/-- The endpoint of a service: scheme, host and port, and a base path of segments with slashes at
its end. -/
structure ServiceEndpoint where
  /-- Whether the scheme is `https` and not `http`. -/
  secure : Bool
  host : EndpointHost
  port : Option Nat
  segments : List (List Char)
  /-- The number of slashes at the end. -/
  slashes : Nat
  isHost : host.IsValid
  isPort : ∀ n, port = some n → 0 < n ∧ n ≤ 65535
  isSegment : ∀ s ∈ segments, s ≠ [] ∧ ∀ c ∈ s, Percent.isUnreserved c = true

namespace ServiceEndpoint

def scheme (e : ServiceEndpoint) : List Char := if e.secure then "https".toList else "http".toList

/-- The port that the scheme implies. -/
def impliedPort (e : ServiceEndpoint) : Nat := if e.secure then 443 else 80

def authority (e : ServiceEndpoint) : List Char := e.host.text ++ portChars e.port

/-- The base path without slashes at its end. -/
def base (e : ServiceEndpoint) : List Char := e.segments.flatMap fun s => '/' :: s

def text (e : ServiceEndpoint) : String :=
  String.ofList (e.scheme ++ ':' :: '/' :: '/' ::
    (e.authority ++ (e.base ++ List.replicate e.slashes '/')))

/-- The URL of the root at an endpoint: the host in lower case, and the port unless it is the one
that the scheme implies. -/
def url (e : ServiceEndpoint) : String :=
  String.ofList (e.scheme ++ ':' :: '/' :: '/' :: (lowerChars e.host.text ++
    portChars (e.port.filter (· ≠ e.impliedPort)) ++ e.base ++ ['/']))

end ServiceEndpoint

/-! ### Ports and hosts -/

theorem mem_portChars {port : Option Nat} {c : Char} (h : c ∈ portChars port) :
    c = ':' ∨ c.isDigit = true := by
  unfold portChars at h
  cases port with
  | none => cases h
  | some n =>
    rcases List.mem_cons.1 h with rfl | h
    · exact .inl rfl
    · exact .inr (Nat.isDigit_of_mem_toDigits (by decide) (by decide) h)

theorem all_toDigits (n : Nat) : (Nat.toDigits 10 n).all Char.isDigit = true :=
  List.all_eq_true.2 fun _ hc => Nat.isDigit_of_mem_toDigits (by decide) (by decide) hc

theorem isEmpty_toDigits (n : Nat) : (Nat.toDigits 10 n).isEmpty = false :=
  List.isEmpty_eq_false_iff.2 Nat.toDigits_ne_nil

theorem colon_notMem_toDigits (n : Nat) : ':' ∉ Nat.toDigits 10 n := by
  intro h
  have hdigit := List.all_eq_true.1 (all_toDigits n) ':' h
  exact absurd hdigit (by decide)

theorem toList_port (n : Nat) : (":" ++ toString n).toList = portChars (some n) := by
  rw [String.toList_append, toList_toString]
  rfl

/-- A port is at the end of a text with a port only if the two are the same. -/
theorem portChars_suffix_iff {n m : Nat} {name : List Char} :
    portChars (some n) <:+ name ++ portChars (some m) ↔ n = m := by
  constructor
  · rintro ⟨front, h⟩
    -- both texts are split at their last colon
    have hsplit : ∀ (k : Nat) (front : List Char),
        splitLast (· = ':') (front ++ portChars (some k)) = (some front, Nat.toDigits 10 k) := by
      intro k front
      exact Url.splitLast_of_mark (no_mark (colon_notMem_toDigits k)) (by decide)
    have hboth := (hsplit n front).symm.trans ((congrArg _ h).trans (hsplit m name))
    exact toDigits_injective (congrArg Prod.snd hboth)
  · rintro rfl
    exact List.suffix_append _ _

namespace Request

/-- A port is left out if it is the given one. -/
theorem dropEnd_port (n m : Nat) (name : List Char) :
    dropEnd (":" ++ toString n) (String.ofList (name ++ portChars (some m))) =
      String.ofList (name ++ portChars ((some m).filter (· ≠ n))) := by
  have hends : (":" ++ toString n).toList.isSuffixOf
      (String.ofList (name ++ portChars (some m))).toList = true ↔ n = m := by
    rw [List.isSuffixOf_iff_suffix, toList_port, String.toList_ofList, portChars_suffix_iff]
  unfold dropEnd
  by_cases hnm : n = m
  · have hlength : (":" ++ toString n).length = (portChars (some m)).length := by
      rw [← String.length_toList, toList_port, hnm]
    rw [if_pos (hends.2 hnm), hlength, ← String.length_toList, String.toList_ofList,
      List.length_append, Nat.add_sub_cancel, List.take_left, Option.filter_some,
      if_neg (by simp [hnm])]
    exact congrArg String.ofList (List.append_nil name).symm
  · rw [if_neg (mt hends.1 hnm), Option.filter_some, if_pos (by simpa using Ne.symm hnm)]

/-- A name of letters, digits and hyphens is a host, with or without a port. -/
theorem isHost_name {name : List Char} (h : HostName.IsDnsName name) (hscore : '_' ∉ name)
    (port : Option Nat) : isHost (String.ofList (name ++ portChars port)) = true := by
  have hchars : ∀ c ∈ name, (c.isAlphanum || c = '.' || c = '-') = true := by
    obtain ⟨parts, ended, -, hparts, rfl⟩ := h
    intro c hc
    have hlabel : c = '.' ∨ HostName.isLabelChar c = true := by
      rcases List.mem_append.1 hc with hc | hc
      · rcases HostName.mem_intercalate hc with rfl | ⟨l, hl, hc⟩
        · exact .inl rfl
        · exact .inr ((hparts l hl).2.2 c hc)
      · cases ended with
        | true => exact .inl (List.mem_singleton.1 hc)
        | false => cases hc
    rcases hlabel with rfl | hlabel
    · decide
    · unfold HostName.isLabelChar at hlabel
      simp only [Bool.or_eq_true, decide_eq_true_eq] at hlabel ⊢
      rcases hlabel with (hlabel | hlabel) | rfl
      · exact .inl (.inl hlabel)
      · exact .inr hlabel
      · exact absurd hc hscore
  obtain ⟨first, rest, hname⟩ := List.exists_cons_of_ne_nil h.ne_nil
  -- a name is not taken for an address, and ends where the port begins
  have hbracket : first ≠ '[' := by
    rintro rfl
    exact absurd (hchars '[' (by rw [hname]; exact List.mem_cons_self)) (by decide)
  have htake : (name ++ portChars port).takeWhile (fun c => c.isAlphanum || c = '.' || c = '-') =
      name := by
    rw [List.takeWhile_append_of_pos hchars]
    cases port with
    | none => exact List.append_nil name
    | some n => exact List.append_nil name
  have hdrop : (name ++ portChars port).dropWhile (fun c => c.isAlphanum || c = '.' || c = '-') =
      portChars port := by
    rw [List.dropWhile_append_of_pos hchars]
    cases port with
    | none => rfl
    | some n => rfl
  unfold isHost
  rw [String.toList_ofList, hname, List.cons_append]
  split
  · rename_i heq
    exact absurd (List.cons.inj heq).1 hbracket
  · dsimp only
    rw [← List.cons_append, ← hname, htake, hdrop, hname]
    cases port with
    | none => rfl
    | some n =>
      show (!List.isEmpty (first :: rest) &&
        (!(Nat.toDigits 10 n).isEmpty && (Nat.toDigits 10 n).all Char.isDigit)) = true
      rw [all_toDigits, isEmpty_toDigits]
      rfl

/-- The server of an authority that has a port or not. -/
theorem serverOf_name {name : List Char} (hname : ':' ∉ name) (scheme : String)
    (port : Option Nat) : serverOf scheme (String.ofList (name ++ portChars port)) =
      (String.ofList name, port.getD (if scheme = "https" then 443 else 80)) := by
  have hcolon := no_mark hname
  unfold serverOf
  rw [String.toList_ofList]
  cases port with
  | none =>
    have hnil : name ++ portChars none = name := List.append_nil name
    rw [hnil, Url.splitFirst_none hcolon]
    rfl
  | some n =>
    have hcons : portChars (some n) = ':' :: Nat.toDigits 10 n := rfl
    rw [hcons, Url.splitFirst_of_mark hcolon (by decide)]
    dsimp only
    rw [all_toDigits, isEmpty_toDigits, Nat.ofDigitChars_ten_toDigits]
    rfl

/-- The host of a request at an endpoint, whose scheme implies a port. -/
theorem host_eq {r : Request} {e : ServiceEndpoint} {given : String}
    (hscheme : r.scheme = String.ofList e.scheme)
    (hgiven : ((r.headers.get? "host").map Text.replaced).getD
      (r.serverName ++ ":" ++ toString r.serverPort) = given) :
    r.host = if isHost (dropEnd (":" ++ toString e.impliedPort) given) then
      dropEnd (":" ++ toString e.impliedPort) given else "" := by
  unfold host
  rw [hgiven, hscheme]
  unfold ServiceEndpoint.scheme ServiceEndpoint.impliedPort
  cases e.secure with
  | true =>
    have hs : String.ofList "https".toList = "https" := String.ofList_toList
    have hport : ":" ++ toString 443 = ":443" := rfl
    have hplain : ¬ ("https" = "http" ∨ "https" = "ws") := by decide
    have hsecure : "https" = "https" ∨ "https" = "wss" := .inl rfl
    rw [if_pos rfl, if_pos rfl, hs, hport]
    dsimp only
    rw [if_neg hplain, if_pos hsecure]
  | false =>
    have hs : String.ofList "http".toList = "http" := String.ofList_toList
    have hport : ":" ++ toString 80 = ":80" := rfl
    have hplain : "http" = "http" ∨ "http" = "ws" := .inl rfl
    rw [if_neg Bool.false_ne_true, if_neg Bool.false_ne_true, hs, hport]
    dsimp only
    rw [if_pos hplain]

/-- **The host that a request is sent to** is that of its server, with the port unless the scheme
implies it. -/
theorem host_of_server {r : Request} {e : ServiceEndpoint} {name : List Char}
    (hname : HostName.IsDnsName name) (hscore : '_' ∉ name)
    (hscheme : r.scheme = String.ofList e.scheme) (hserver : r.serverName = String.ofList name)
    (hport : r.serverPort = e.port.getD e.impliedPort) (hhost : r.headers.get? "host" = none) :
    r.host = String.ofList (name ++ portChars (e.port.filter (· ≠ e.impliedPort))) := by
  have hgiven : ((r.headers.get? "host").map Text.replaced).getD
      (r.serverName ++ ":" ++ toString r.serverPort) =
        String.ofList (name ++ portChars (some (e.port.getD e.impliedPort))) := by
    refine String.toList_inj.1 ?_
    rw [hhost, Option.map_none, Option.getD_none, hserver, hport, String.append_assoc,
      String.toList_append, toList_port, String.toList_ofList, String.toList_ofList]
  have hfilter : (some (e.port.getD e.impliedPort)).filter (· ≠ e.impliedPort) =
      e.port.filter (· ≠ e.impliedPort) := by
    cases e.port with
    | none => simp
    | some n => rfl
  rw [host_eq hscheme hgiven, dropEnd_port, hfilter, if_pos (isHost_name hname hscore _)]

end Request

/-! ### Reading an endpoint -/

/-- Lower case makes no underscores. -/
theorem underscore_notMem_lower {s : List Char} (hascii : ∀ c ∈ s, c.toNat < 128)
    (h : '_' ∉ s) : '_' ∉ lowerChars s := by
  have hsame : ∀ c : Char, c.toNat < 128 → c.toLower = '_' → c = '_' := ascii_forall (by decide)
  rw [lowerChars_ascii hascii, List.mem_map]
  rintro ⟨c, hc, hlower⟩
  exact h (hsame c (hascii c hc) hlower ▸ hc)

/-- A character of a host or a port. -/
def isAuthorityChar (c : Char) : Bool := Percent.isUnreserved c || c = ':'

theorem isAuthorityChar_of_isAddressChar {c : Char} (h : Url.isAddressChar c = true) :
    isAuthorityChar c = true := by
  have hall : ∀ c : Char, c.toNat < 128 → Url.isAddressChar c = true → isAuthorityChar c = true :=
    ascii_forall (by decide)
  exact hall c (Url.lt_of_isAddressChar h) h

theorem isAuthorityChar_portChars {port : Option Nat} {c : Char} (h : c ∈ portChars port) :
    isAuthorityChar c = true := by
  rcases mem_portChars h with rfl | hdigit
  · decide
  · have hunreserved : Percent.isUnreserved c = true := by
      refine isUnreserved_of_isAlphanum ?_
      unfold Char.isAlphanum
      rw [hdigit, Bool.or_true]
    unfold isAuthorityChar
    rw [hunreserved]
    rfl

theorem lt_of_isAuthorityChar {c : Char} (h : isAuthorityChar c = true) : c.toNat < 128 := by
  unfold isAuthorityChar at h
  rw [Bool.or_eq_true, decide_eq_true_eq] at h
  rcases h with h | rfl
  · exact lt_of_isUnreserved h
  · decide

theorem isHostText_of_authority {s : List Char} (h : ∀ c ∈ s, isAuthorityChar c = true) :
    Url.IsHostText s := by
  intro c hc
  refine ⟨ne_of_kind (h c hc) (by decide), ne_of_kind (h c hc) (by decide),
    ne_of_kind (h c hc) (by decide), ?_⟩
  exact Url.not_isDropped (by decide) (by decide) (by decide) (h c hc)

namespace EndpointHost

variable {h : EndpointHost}

theorem isAuthorityChar_chars (hv : h.IsValid) : ∀ c ∈ h.chars, isAuthorityChar c = true := by
  intro c hc
  cases h with
  | name s =>
    unfold isAuthorityChar
    rw [hv.1.isUnreserved c hc]
    rfl
  | address s => exact isAuthorityChar_of_isAddressChar (Url.isIpv6_chars hv.1 hv.2 c hc)

end EndpointHost

namespace ServiceEndpoint

variable {e : ServiceEndpoint} {name address : List Char}

theorem isScheme (e : ServiceEndpoint) : Url.IsSchemeText e.scheme := by
  unfold scheme
  cases e.secure with
  | true => exact ⟨'h', "ttps".toList, rfl, by decide, by decide⟩
  | false => exact ⟨'h', "ttp".toList, rfl, by decide, by decide⟩

theorem map_toLower_scheme (e : ServiceEndpoint) : e.scheme.map Char.toLower = e.scheme := by
  unfold scheme
  cases e.secure with
  | true => decide
  | false => decide

theorem isHostText_authority (e : ServiceEndpoint) : Url.IsHostText e.authority := by
  have hchars := isHostText_of_authority (EndpointHost.isAuthorityChar_chars e.isHost)
  have hport : Url.IsHostText (portChars e.port) :=
    isHostText_of_authority fun c => isAuthorityChar_portChars
  intro c hc
  rcases List.mem_append.1 hc with hc | hc
  · cases hhost : e.host with
    | name s =>
      rw [hhost] at hc hchars
      exact hchars c hc
    | address s =>
      rw [hhost] at hc hchars
      rw [EndpointHost.text, List.mem_cons, List.mem_append, List.mem_singleton] at hc
      rcases hc with rfl | hc | rfl
      · decide
      · exact hchars c hc
      · decide
  · exact hport c hc

/-- The endpoint as a text of scheme, host and path. -/
def toText (e : ServiceEndpoint) : EndpointText where
  scheme := e.scheme
  host := e.authority
  segments := e.segments
  slashes := e.slashes
  isScheme := e.isScheme
  isHost := e.isHostText_authority
  isSegment := e.isSegment

/-- Brackets stand around an address only. -/
theorem checkBrackets_authority (e : ServiceEndpoint) :
    Url.checkBrackets e.authority = .ok () := by
  have hmark : ∀ d, isAuthorityChar d = false → d ∉ e.host.chars ++ portChars e.port := by
    intro d hd hmem
    rcases List.mem_append.1 hmem with hmem | hmem
    · exact ne_of_kind (EndpointHost.isAuthorityChar_chars e.isHost d hmem) hd rfl
    · exact ne_of_kind (isAuthorityChar_portChars hmem) hd rfl
  have hleft := hmark '[' (by decide)
  have hright := hmark ']' (by decide)
  unfold authority
  have hvalid := e.isHost
  cases hhost : e.host with
  | name s =>
    rw [hhost] at hleft hright
    exact Url.checkBrackets_none hleft hright
  | address s =>
    rw [hhost] at hleft hright hvalid
    have hinner : splitFirst (· = ']') (s ++ ']' :: portChars e.port) =
        (s, some (portChars e.port)) :=
      Url.splitFirst_of_mark (no_mark (mt (List.mem_append_left _) hright)) (by decide)
    have houter : splitFirst (· = '[') ('[' :: (s ++ ']' :: portChars e.port)) =
        ([], some (s ++ ']' :: portChars e.port)) :=
      Url.splitFirst_cons (by decide) _
    have htext : EndpointHost.text (.address s) ++ portChars e.port =
        '[' :: (s ++ ']' :: portChars e.port) := by
      simp [EndpointHost.text]
    unfold Url.checkBrackets
    rw [htext, houter]
    dsimp only [Option.getD_some]
    rw [hinner]
    simp [Url.checkAddress_of_isIpv6 hvalid.1 hvalid.2]

/-- An authority is in ASCII. -/
theorem checkMarks_authority (e : ServiceEndpoint) : Url.checkMarks e.authority = .ok () := by
  refine Url.checkMarks_of_none fun c hc => ?_
  rcases List.mem_append.1 hc with hc | hc
  · have hchars := EndpointHost.isAuthorityChar_chars e.isHost
    cases hhost : e.host with
    | name s =>
      rw [hhost] at hc hchars
      exact Url.notMem_markVariants (lt_of_isAuthorityChar (hchars c hc))
    | address s =>
      rw [hhost] at hc hchars
      rw [EndpointHost.text, List.mem_cons, List.mem_append, List.mem_singleton] at hc
      rcases hc with rfl | hc | rfl
      · decide
      · exact Url.notMem_markVariants (lt_of_isAuthorityChar (hchars c hc))
      · decide
  · exact Url.notMem_markVariants (lt_of_isAuthorityChar (isAuthorityChar_portChars hc))

theorem endsAuthority_base (e : ServiceEndpoint) :
    Url.EndsAuthority (e.base ++ List.replicate e.slashes '/') := by
  refine e.toText.path_slash.imp_right fun hslash => ?_
  obtain ⟨rest, hrest⟩ := List.head?_eq_some_iff.1 hslash
  exact ⟨'/', rest, hrest, .inl rfl⟩

/-- **An endpoint is read**, with its scheme, its authority and its path. -/
theorem parse_text (e : ServiceEndpoint) : ∃ target, Url.parse e.text = .ok target ∧
    target.scheme = String.ofList e.scheme ∧ target.authority = String.ofList e.authority := by
  obtain ⟨target, ht, hscheme, hauthority, -⟩ := Url.parse_authority e.isScheme
    e.isHostText_authority e.checkBrackets_authority e.checkMarks_authority e.endsAuthority_base
  rw [e.map_toLower_scheme] at hscheme
  exact ⟨target, ht, hscheme, hauthority⟩

/-- The path of the root at an endpoint starts with one slash. -/
theorem root_single (e : ServiceEndpoint) : ¬ ∃ t, e.base ++ ['/'] = '/' :: '/' :: t := by
  rintro ⟨t, ht⟩
  rcases e.toText.base_eq with ⟨-, hbase⟩ | ⟨c, rest, hbase, hc⟩
  · have hbase : e.base = [] := hbase
    rw [hbase] at ht
    cases ht
  · have hbase : e.base = '/' :: c :: rest := hbase
    rw [hbase] at ht
    cases ht
    exact hc rfl

theorem root_chars (e : ServiceEndpoint) :
    (∀ c ∈ e.base ++ ['/'], PathTemplate.isPathChar c = true) ∧
      (e.base ++ ['/']).head? = some '/' := by
  constructor
  · intro c hc
    rcases List.mem_append.1 hc with hc | hc
    · exact e.toText.isPathChar_base c hc
    · rw [List.mem_singleton.1 hc]
      decide
  · rcases e.toText.base_eq with ⟨-, hbase⟩ | ⟨c, rest, hbase, -⟩
    · have hbase : e.base = [] := hbase
      rw [hbase]
      rfl
    · have hbase : e.base = '/' :: c :: rest := hbase
      rw [hbase]
      rfl

/-- The root at an endpoint can be read. -/
theorem pathReadsAt_root (e : ServiceEndpoint) (o : Operation) : o.PathReadsAt "/" e.text := by
  obtain ⟨target, ht, -, -⟩ := e.parse_text
  have hpath := Operation.parts_path (o := o) (s := ['/']) (e := e.toText) rfl rfl ht "" none []
    .null
  obtain ⟨plain, hplain⟩ := RequestParts.pathReads_of_path hpath e.root_chars.1 e.root_chars.2
    e.root_single
  exact ⟨target, ht, plain, hplain⟩

/-! ### Endpoints with a name -/

theorem isDnsName_of_host (h : e.host = .name name) : HostName.IsDnsName name := by
  have hvalid := e.isHost
  rw [h] at hvalid
  exact hvalid.1

/-- The endpoint of a name, with whatever follows it. -/
def toDns (e : ServiceEndpoint) (h : e.host = .name name) : DnsEndpoint where
  scheme := e.scheme
  user := none
  host := name
  port := e.port.map fun n => Nat.toDigits 10 n
  tail := e.base ++ List.replicate e.slashes '/'
  isScheme := e.isScheme
  isUser := DnsEndpoint.isUser_none
  isHost := isDnsName_of_host h
  isPort := DnsEndpoint.isPort_digits fun n hn => (e.isPort n hn).2
  endsAuthority := e.endsAuthority_base

theorem text_toDns (h : e.host = .name name) : (e.toDns h).text = e.text := by
  have hport : (e.toDns h).portText = portChars e.port := by
    show (e.port.map fun n => Nat.toDigits 10 n).elim [] (fun digits => ':' :: digits) = _
    rw [Option.elim_map]
    rfl
  have hauthority : (e.toDns h).authority = e.authority := by
    show [] ++ (name ++ (e.toDns h).portText) = e.host.text ++ portChars e.port
    rw [hport, h]
    rfl
  unfold DnsEndpoint.text
  rw [hauthority]
  rfl

theorem portNumber_toDns (h : e.host = .name name) : (e.toDns h).portNumber = e.port := by
  show (if ((e.port.map fun n => Nat.toDigits 10 n).getD []).isEmpty then none
    else some (Nat.ofDigitChars 10 ((e.port.map fun n => Nat.toDigits 10 n).getD []) 0)) = _
  cases e.port with
  | none => rfl
  | some n =>
    rw [Option.map_some, Option.getD_some, isEmpty_toDigits, if_neg Bool.false_ne_true,
      Nat.ofDigitChars_ten_toDigits]

/-- No port is zero. -/
theorem filter_port (e : ServiceEndpoint) : e.port.filter (· ≠ 0) = e.port := by
  have hpos := e.isPort
  cases hport : e.port with
  | none => rfl
  | some n =>
    have hn : n ≠ 0 := Nat.pos_iff_ne_zero.1 (hpos n hport).1
    rw [Option.filter_some, if_pos (decide_eq_true hn)]

/-- The base of a request has the scheme, the name in lower case and the port. -/
theorem base_of_reads (h : e.host = .name name) {o : Operation} {path query : String}
    {headers : Headers} {body : Value} {target base : Url} {port : Option Nat}
    (ht : Url.parse e.text = .ok target) (hport : target.port? = .ok port)
    (hbase : (o.parts path query target port headers body).BaseReads base) :
    base.scheme = String.ofList e.scheme ∧
      base.authority = String.ofList (lowerChars name ++ portChars e.port) := by
  obtain ⟨target', ht', hscheme, hauthority, -⟩ := (e.toDns h).parse_text
  rw [text_toDns] at ht'
  obtain rfl : target' = target := Except.ok.inj (ht'.symm.trans ht)
  obtain rfl : port = (e.toDns h).portNumber :=
    Except.ok.inj (hport.symm.trans (DnsEndpoint.port_eq hauthority))
  obtain ⟨text, hnormal, hparse, -⟩ := hbase
  rw [DnsEndpoint.baseText_parts hscheme hauthority, (e.toDns h).normalize_plain] at hnormal
  obtain rfl := Except.ok.inj hnormal
  obtain ⟨base', hparse', hscheme', hauthority', -⟩ := (e.toDns h).plain.parse_text
  obtain rfl : base' = base := Except.ok.inj (hparse'.symm.trans hparse)
  have hplain : (e.toDns h).plain.authority = lowerChars name ++ portChars e.port := by
    show [] ++ (lowerChars name ++ ((((e.toDns h).portNumber.filter (· ≠ 0)).map fun n =>
      Nat.toDigits 10 n).elim [] fun digits => ':' :: digits)) = _
    rw [portNumber_toDns, filter_port, Option.elim_map]
    rfl
  rw [hauthority', hplain, hscheme']
  refine ⟨congrArg String.ofList ?_, rfl⟩
  show (e.scheme.map Char.toLower).map Char.toLower = e.scheme
  rw [map_toLower_scheme, map_toLower_scheme]

/-- **A request for the root** of a name has the URL of the root. -/
theorem rawBaseUrl_of_make (h : e.host = .name name) {o : Operation} {query : String}
    {headers : Headers} {body : Value} {parts : Multipart} {target : Url} {port : Option Nat}
    {r : Request} (ht : Url.parse e.text = .ok target) (hport : target.port? = .ok port)
    (hmake : Request.make (o.parts "/" query target port headers body) parts = .ok r)
    (hhost : r.headers.get? "host" = none) : r.rawBaseUrl = .ok e.url := by
  obtain ⟨rest, hrest, huri⟩ :=
    Operation.rawUri_parts (s := ['/']) (e := e.toText) rfl rfl ht hmake
  have huri : r.rawUri = String.ofList (e.base ++ ['/'] ++ rest) := huri
  have hpath := Request.rawPath_of_written huri e.root_chars.1 e.root_chars.2 hrest
  rw [Url.takeAuthority_eq_self.2 e.root_single] at hpath
  have hvalid := e.isHost
  rw [h] at hvalid
  obtain ⟨hname, hscore⟩ := hvalid
  have hlower := underscore_notMem_lower hname.ascii hscore
  have hcolon : ':' ∉ lowerChars name := fun hmem =>
    absurd (hname.lower.isUnreserved _ hmem) (by decide)
  obtain ⟨-, plain, -, base, hbase, sent, -, rfl⟩ := Request.make_eq_ok.1 hmake
  obtain ⟨hscheme, hauthority⟩ := base_of_reads h ht hport hbase
  have hserver := Request.serverOf_name hcolon base.scheme e.port
  rw [← hauthority] at hserver
  have himplied : (if base.scheme = "https" then 443 else 80) = e.impliedPort := by
    rw [hscheme]
    unfold scheme impliedPort
    cases e.secure with
    | true => rfl
    | false => rfl
  rw [himplied] at hserver
  have hsent := Request.host_of_server (e := e) hname.lower hlower hscheme
    (congrArg Prod.fst hserver) (congrArg Prod.snd hserver) hhost
  unfold Request.rawBaseUrl
  rw [hpath, hsent]
  refine congrArg Except.ok (String.toList_inj.1 ?_)
  have hscheme' : ((o.parts "/" query target port headers body).request plain base sent).scheme =
      String.ofList e.scheme := hscheme
  have htext : lowerChars e.host.text = lowerChars name := by
    rw [h]
    rfl
  unfold url
  rw [hscheme', htext]
  simp only [String.toList_append, String.toList_ofList, List.append_assoc]
  rfl

/-! ### Endpoints with an address -/

/-- What is taken for the port of an address without brackets: all behind its first colon. -/
def misread (e : ServiceEndpoint) : List Char :=
  ((lowerChars e.host.chars ++ portChars e.port).dropWhile (· ≠ ':')).tail

/-- The failure of a request at an endpoint with an address. -/
def misreadFailure (e : ServiceEndpoint) : Failure :=
  .url (.portText (quoteText (String.ofList e.misread)))

/-- Host and port of an endpoint with an address are read. -/
theorem parts_of_address (h : e.host = .address address) {target : Url}
    (hauthority : target.authority = String.ofList e.authority) :
    target.hostName? = some (String.ofList (lowerChars address)) ∧ target.port? = .ok e.port := by
  have hvalid := e.isHost
  rw [h] at hvalid
  have hchars : ∀ c ∈ address, isAuthorityChar c = true :=
    EndpointHost.isAuthorityChar_chars hvalid
  have hmark : ∀ d, isAuthorityChar d = false → ∀ c ∈ address, decide (c = d) = false :=
    fun d hd c hc => decide_eq_false (ne_of_kind (hchars c hc) hd)
  have htext : e.authority = '[' :: (address ++ ']' :: portChars e.port) := by
    unfold authority
    rw [h]
    simp [EndpointHost.text]
  have hat : ∀ c ∈ '[' :: (address ++ ']' :: portChars e.port), decide (c = '@') = false := by
    intro c hc
    rw [List.mem_cons, List.mem_append, List.mem_cons] at hc
    rcases hc with rfl | hc | rfl | hc
    · decide
    · exact hmark '@' (by decide) c hc
    · decide
    · exact decide_eq_false (ne_of_kind (isAuthorityChar_portChars hc) (by decide))
  have hbehind : (splitFirst (· = ':') (portChars e.port)).2.getD [] =
      (e.port.map fun n => Nat.toDigits 10 n).getD [] := by
    cases e.port with
    | none => rfl
    | some n => rfl
  have htexts : target.hostAndPortTexts =
      (address, (e.port.map fun n => Nat.toDigits 10 n).getD []) := by
    have hopen : splitFirst (· = '[') ('[' :: (address ++ ']' :: portChars e.port)) =
        ([], some (address ++ ']' :: portChars e.port)) :=
      Url.splitFirst_cons (by decide) _
    unfold Url.hostAndPortTexts Url.hostAndPort
    rw [hauthority, String.toList_ofList, htext, Url.splitLast_none hat]
    dsimp only
    rw [hopen]
    dsimp only
    rw [Url.splitFirst_of_mark (hmark ']' (by decide)) (by decide)]
    exact congrArg (Prod.mk address) hbehind
  constructor
  · obtain ⟨group, rest, hsplit, -, -⟩ := Url.isIpv6_colons hvalid.1 hvalid.2
    have hne : address.isEmpty = false := by
      rw [List.isEmpty_eq_false_iff, hsplit]
      exact List.append_ne_nil_of_right_ne_nil _ (List.cons_ne_nil _ _)
    have hzone : ∀ c ∈ address, (c != '%') = true := fun c hc =>
      bne_iff_ne.2 (ne_of_kind (hchars c hc) (by decide))
    unfold Url.hostName?
    rw [htexts]
    dsimp only
    rw [hne, List.takeWhile_eq_self_iff.2 hzone, List.dropWhile_eq_nil_iff.2 hzone, List.append_nil]
    rfl
  · have hport := e.isPort
    unfold Url.port?
    rw [htexts]
    cases hn : e.port with
    | none => rfl
    | some n =>
      have hdigits := DnsEndpoint.isPort_digits (fun m hm => (hport m hm).2) (Nat.toDigits 10 n)
        (by rw [hn, Option.map_some])
      dsimp only [Option.map_some, Option.getD_some]
      rw [isEmpty_toDigits, if_neg Bool.false_ne_true, if_pos (all_toDigits n),
        Nat.ofDigitChars_ten_toDigits, if_neg (Nat.not_lt.2 hdigits.length_le),
        if_pos (hport n hn).2]

/-- An address without brackets is a group, or nothing, in front of a colon and more than digits. -/
theorem chars_of_address (h : e.host = .address address) :
    ∃ group, (group = [] ∨ HostName.IsDnsName group) ∧ ':' ∈ e.misread ∧
      lowerChars address ++ portChars e.port = group ++ ':' :: e.misread := by
  have hvalid := e.isHost
  rw [h] at hvalid
  have hchars : ∀ c ∈ address, c.toNat < 128 := fun c hc =>
    lt_of_isAuthorityChar (EndpointHost.isAuthorityChar_chars hvalid c hc)
  obtain ⟨group, rest, rfl, hgroup, hcolon⟩ := Url.isIpv6_colons hvalid.1 hvalid.2
  have hname : group.map Char.toLower = [] ∨ HostName.IsDnsName (group.map Char.toLower) := by
    refine hgroup.imp (fun hnil => by rw [hnil]; rfl) fun hgroup => ?_
    exact .of_label (HostName.isLabel_toLower (Url.isLabel_of_isGroup hgroup))
  have hsplit : lowerChars (group ++ ':' :: rest) ++ portChars e.port =
      group.map Char.toLower ++ ':' :: (rest.map Char.toLower ++ portChars e.port) := by
    rw [lowerChars_ascii hchars, List.map_append, List.map_cons, List.append_assoc]
    rfl
  have hmisread : e.misread = rest.map Char.toLower ++ portChars e.port := by
    have hno : ∀ c ∈ group.map Char.toLower, decide (c ≠ ':') = true := by
      intro c hc
      rcases hname with hnil | hname
      · rw [hnil] at hc
        cases hc
      · exact decide_eq_true (ne_of_kind (hname.isUnreserved c hc) (by decide))
    unfold misread
    rw [h, EndpointHost.chars, hsplit, List.dropWhile_append_of_pos hno,
      List.dropWhile_cons_of_neg (by decide)]
    rfl
  refine ⟨_, hname, ?_, by rw [hsplit, hmisread]⟩
  rw [hmisread]
  exact List.mem_append_left _ (List.mem_map.2 ⟨':', hcolon, by decide⟩)

/-- **An address without brackets is refused**: what stands behind its first colon is no port. -/
theorem normalize_address (h : e.host = .address address) :
    Url.normalize (String.ofList (e.scheme ++ ':' :: '/' :: '/' ::
      (lowerChars address ++ portChars e.port))) = .error e.misreadFailure := by
  have hvalid := e.isHost
  rw [h] at hvalid
  have hchars : ∀ c ∈ address, isAuthorityChar c = true :=
    EndpointHost.isAuthorityChar_chars hvalid
  have hall : ∀ c ∈ lowerChars address ++ portChars e.port, isAuthorityChar c = true := by
    intro c hc
    rcases List.mem_append.1 hc with hc | hc
    · rw [lowerChars_ascii fun c hc => lt_of_isAuthorityChar (hchars c hc)] at hc
      obtain ⟨d, hd, rfl⟩ := List.mem_map.1 hc
      exact kind_toLower (fun _ => lt_of_isAuthorityChar) (by decide) (hchars d hd)
    · exact isAuthorityChar_portChars hc
  have hnot : ∀ d, isAuthorityChar d = false →
      ∀ c ∈ lowerChars address ++ portChars e.port, c ≠ d :=
    fun d hd c hc => ne_of_kind (hall c hc) hd
  have hmark : ∀ d, isAuthorityChar d = false →
      ∀ c ∈ lowerChars address ++ portChars e.port, decide (c = d) = false :=
    fun d hd c hc => decide_eq_false (hnot d hd c hc)
  have hends : Url.EndsAuthority [] := .inl rfl
  obtain ⟨u, hu, -, hauthority, -⟩ := Url.parse_authority e.isScheme
    (isHostText_of_authority hall) (Url.checkBrackets_none
      (fun hmem => hnot '[' (by decide) _ hmem rfl) fun hmem => hnot ']' (by decide) _ hmem rfl)
    (Url.checkMarks_of_none fun c hc => Url.notMem_markVariants (lt_of_isAuthorityChar (hall c hc)))
    hends
  rw [List.append_nil] at hu
  -- the first colon parts the group in front of it from what is taken for a port
  obtain ⟨group, hgroup, hcolon, hsplit⟩ := chars_of_address h
  have hfront : ∀ c ∈ group, decide (c = ':') = false := by
    intro c hc
    rcases hgroup with rfl | hgroup
    · cases hc
    · exact decide_eq_false (ne_of_kind (hgroup.isUnreserved c hc) (by decide))
  have htexts : u.hostAndPortTexts = (group, e.misread) := by
    unfold Url.hostAndPortTexts Url.hostAndPort
    rw [hauthority, String.toList_ofList, Url.splitLast_none (hmark '@' (by decide))]
    dsimp only
    rw [Url.splitFirst_none (hmark '[' (by decide)), hsplit]
    dsimp only
    rw [Url.splitFirst_of_mark hfront (by decide)]
    rfl
  have hport : u.port? = .error e.misreadFailure := by
    have hne : ¬ e.misread.isEmpty = true := by
      rw [List.isEmpty_iff]
      exact List.ne_nil_of_mem hcolon
    have hdigits : ¬ e.misread.all Char.isDigit = true := fun hdigits =>
      absurd (List.all_eq_true.1 hdigits ':' hcolon) (by decide)
    unfold Url.port?
    rw [htexts]
    dsimp only
    rw [if_neg hne, if_neg hdigits]
    rfl
  have hascii : ∃ host, (HostName.toAscii (u.hostName?.getD "").toList).mapError
      (fun f => Failure.url (.label f)) = .ok host := by
    unfold Url.hostName?
    rw [htexts]
    rcases hgroup with rfl | hgroup
    · exact ⟨[], rfl⟩
    · have hzone : ∀ c ∈ group, (c != '%') = true := fun c hc =>
        bne_iff_ne.2 (ne_of_kind (hgroup.isUnreserved c hc) (by decide))
      dsimp only
      rw [List.isEmpty_eq_false_iff.2 hgroup.ne_nil, List.takeWhile_eq_self_iff.2 hzone,
        List.dropWhile_eq_nil_iff.2 hzone, List.append_nil, if_neg Bool.false_ne_true,
        Option.getD_some, String.toList_ofList, hgroup.lower.toAscii]
      exact ⟨_, rfl⟩
  obtain ⟨host, hhost⟩ := hascii
  exact bind_eq_error.2 (.inr ⟨u, hu, bind_eq_error.2 (.inr ⟨host, hhost, bind_eq_error.2
    (.inl hport)⟩)⟩)

end ServiceEndpoint

end ServiceClient
