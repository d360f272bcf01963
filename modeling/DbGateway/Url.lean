import DbGateway.Python

/-!
# DbGateway.Url

`urllib.parse`: the scheme, the host and the port of a URL.

The path, the query and the fragment are not kept.  `urlsplit` and the port
raise `ValueError` on malformed text, which is `none` here.
-/

namespace DbGateway.Url

/-! ## Separators -/

/-- `text.partition(sep)`: what stands before the first separator, whether there
is one, and what follows it. -/
def partition (sep : Char) (text : List Char) : List Char × Bool × List Char :=
  (text.takeWhile (· ≠ sep), decide (sep ∈ text), (text.dropWhile (· ≠ sep)).tail)

/-- `text.rpartition(sep)[2]` -/
def afterLast (sep : Char) (text : List Char) : List Char :=
  (text.reverse.takeWhile (· ≠ sep)).reverse

/-- The first separator tells what stands before it from what follows. -/
theorem append_cons_inj_of_first {α : Type*} {sep : α} {a a' b b' : List α} (ha : sep ∉ a)
    (ha' : sep ∉ a') : a ++ sep :: b = a' ++ sep :: b' ↔ a = a' ∧ b = b' := by
  refine ⟨fun h => ?_, fun h => by rw [h.1, h.2]⟩
  induction a generalizing a' with
  | nil =>
      cases a' with
      | nil => exact ⟨rfl, (List.cons.inj h).2⟩
      | cons c a' => exact absurd ((List.cons.inj h).1 ▸ List.mem_cons_self) ha'
  | cons c a ih =>
      cases a' with
      | nil => exact absurd ((List.cons.inj h).1 ▸ List.mem_cons_self) ha
      | cons c' a' =>
          obtain ⟨hc, htail⟩ := List.cons.inj h
          have hparts := ih (fun hmem => ha (List.mem_cons_of_mem _ hmem))
            (fun hmem => ha' (List.mem_cons_of_mem _ hmem)) htail
          exact ⟨by rw [hc, hparts.1], hparts.2⟩

/-- The last separator does so too. -/
theorem append_cons_inj_of_last {α : Type*} {sep : α} {a a' b b' : List α} (hb : sep ∉ b)
    (hb' : sep ∉ b') : a ++ sep :: b = a' ++ sep :: b' ↔ a = a' ∧ b = b' := by
  rw [← List.reverse_inj]
  simp only [List.reverse_append, List.reverse_cons, List.append_assoc, List.singleton_append]
  rw [append_cons_inj_of_first (fun h => hb (List.mem_reverse.mp h))
    (fun h => hb' (List.mem_reverse.mp h)), List.reverse_inj, List.reverse_inj, and_comm]

/-! ## `urlsplit` -/

/-- What `urllib.parse` asks of other modules. -/
class PythonUrls [Python] where
  /-- `ipaddress.ip_address` returns an `IPv6Address`. -/
  isIPv6 : List Char → Bool
  /-- `unicodedata.normalize("NFKC", text)` -/
  nfkc : List Char → List Char
  lower_colon : ∀ s : String, ':' ∈ s.toList → ':' ∈ (lower s).toList

/-- `SplitResult`: a scheme is what stands before a colon. -/
structure SplitResult where
  scheme : String
  netloc : List Char
  colon_notMem : ':' ∉ scheme.toList

section

variable [Python] [PythonUrls]

/-- One of `scheme_chars`. -/
def isSchemeChar (c : Char) : Bool := c.isAlphanum || c = '+' || c = '-' || c = '.'

/-- A hexadecimal digit. -/
def isHexDigit (c : Char) : Bool :=
  c.isDigit || ('a' ≤ c && c ≤ 'f') || ('A' ≤ c && c ≤ 'F')

/-- `re.match(r"\Av[a-fA-F0-9]+\..+\Z", hostname)`, after the `v`. -/
def isIPvFuture (hostname : List Char) : Bool :=
  hostname.takeWhile isHexDigit ≠ [] &&
    match hostname.dropWhile isHexDigit with
    | '.' :: rest => rest ≠ [] && rest.all (· ≠ '\n')
    | _ => false

/-- `_check_bracketed_host` -/
def checkBracketedHost : List Char → Bool
  | 'v' :: hostname => isIPvFuture hostname
  | hostname => PythonUrls.isIPv6 hostname

/-- `_check_bracketed_netloc` -/
def checkBracketedNetloc (netloc : List Char) : Bool :=
  let hostnameAndPort := afterLast '@' netloc
  let (beforeBracket, haveOpenBr, bracketed) := partition '[' hostnameAndPort
  if haveOpenBr then
    let (hostname, _, port) := partition ']' bracketed
    beforeBracket = [] && (port = [] || port.head? = some ':') && checkBracketedHost hostname
  else checkBracketedHost (partition ':' hostnameAndPort).1

/-- `_checknetloc` -/
def checkNetloc (netloc : List Char) : Bool :=
  let n := netloc.filter fun c => !(c = '@' || c = ':' || c = '#' || c = '?')
  netloc.all (fun c => c.toNat < 128) || PythonUrls.nfkc n = n ||
    (PythonUrls.nfkc n).all fun c => !(c = '/' || c = '?' || c = '#' || c = '@' || c = ':')

/-- The scheme, in lower case, and what follows it. -/
def splitScheme (url : List Char) : String × List Char :=
  let (scheme, found, rest) := partition ':' url
  if found && scheme.head?.any Char.isAlpha && scheme.all isSchemeChar then
    (lower (String.ofList scheme), rest)
  else ("", url)

omit [Python] [PythonUrls] in
theorem toLower_ne_colon {c : Char} (hc : c ≠ ':') : c.toLower ≠ ':' := by
  unfold Char.toLower
  split
  case isTrue h =>
    intro hcolon
    have hval : c.val + 32 = ':'.val := congrArg Char.val hcolon
    grind
  case isFalse => exact hc

omit [PythonUrls] in
/-- A scheme is the lower case of ASCII text without a colon. -/
theorem colon_notMem_splitScheme (url : List Char) : ':' ∉ (splitScheme url).1.toList := by
  unfold splitScheme
  dsimp only [partition]
  split
  case isTrue h =>
    simp only [Bool.and_eq_true, List.all_eq_true] at h
    have hascii : ∀ c ∈ (String.ofList (url.takeWhile (· ≠ ':'))).toList, c.toNat < 128 := by
      intro c hc
      rw [String.toList_ofList] at hc
      have hscheme := h.2 c hc
      simp only [isSchemeChar, Bool.or_eq_true, decide_eq_true_eq] at hscheme
      rcases hscheme with ((halnum | rfl) | rfl) | rfl
      · exact Char.toNat_lt_of_isAlphanum halnum
      all_goals decide
    rw [Python.lower_ascii _ hascii, mapChars, String.toList_ofList, String.toList_ofList]
    intro hcolon
    obtain ⟨c, hc, hlower⟩ := List.mem_map.mp hcolon
    have hne : c ≠ ':' := by simpa using List.mem_takeWhile_imp hc
    exact toLower_ne_colon hne hlower
  case isFalse => exact List.not_mem_nil

/-- `_splitnetloc`, without the rest of the URL. -/
def splitNetloc (url : List Char) : List Char :=
  url.takeWhile fun c => !(c = '/' || c = '?' || c = '#')

/-- `url.lstrip(_WHATWG_C0_CONTROL_OR_SPACE)`, without the characters of
`_UNSAFE_URL_BYTES_TO_REMOVE`. -/
def cleanUrl (url : List Char) : List Char :=
  (url.dropWhile fun c => c.toNat ≤ 0x20).filter fun c => !(c = '\t' || c = '\r' || c = '\n')

/-- `urlsplit` -/
def urlsplit (url : String) : Option SplitResult :=
  let scheme := (splitScheme (cleanUrl url.toList)).1
  have hscheme := colon_notMem_splitScheme (cleanUrl url.toList)
  match (splitScheme (cleanUrl url.toList)).2 with
  | '/' :: '/' :: rest =>
      let netloc := splitNetloc rest
      if '[' ∈ netloc ↔ ']' ∈ netloc then
        if ('[' ∈ netloc → checkBracketedNetloc netloc) ∧ checkNetloc netloc then
          some ⟨scheme, netloc, hscheme⟩
        else none
      else none
  | _ => some ⟨scheme, [], hscheme⟩

theorem scheme_of_urlsplit {url : String} {parsed : SplitResult}
    (h : urlsplit url = some parsed) : parsed.scheme = (splitScheme (cleanUrl url.toList)).1 := by
  unfold urlsplit at h
  dsimp only at h
  split at h
  case h_1 rest heq =>
    split at h
    case isFalse => contradiction
    case isTrue =>
      split at h
      case isFalse => contradiction
      case isTrue => rw [← Option.some_inj.mp h]
  case h_2 => rw [← Option.some_inj.mp h]

/-- A URL with a scheme has a colon. -/
theorem colon_mem_of_scheme {url : String} {parsed : SplitResult} (h : urlsplit url = some parsed)
    (hscheme : parsed.scheme ≠ "") : ':' ∈ url.toList := by
  rw [scheme_of_urlsplit h] at hscheme
  unfold splitScheme at hscheme
  dsimp only [partition] at hscheme
  split at hscheme
  case isFalse => contradiction
  case isTrue hfound =>
    simp only [Bool.and_eq_true, decide_eq_true_eq] at hfound
    exact (List.dropWhile_sublist _).subset (List.mem_of_mem_filter hfound.1.1)

namespace SplitResult

/-- `_hostinfo` -/
def hostinfo (self : SplitResult) : List Char × List Char :=
  let hostinfo := afterLast '@' self.netloc
  let (_, haveOpenBr, bracketed) := partition '[' hostinfo
  if haveOpenBr then
    let (hostname, _, port) := partition ']' bracketed
    (hostname, (partition ':' port).2.2)
  else
    let (hostname, _, port) := partition ':' hostinfo
    (hostname, port)

/-- `hostname`, in lower case but for the zone of an address. -/
def hostname (self : SplitResult) : Option String :=
  let hostname := self.hostinfo.1
  if hostname = [] then none
  else
    some (lower (String.ofList (hostname.takeWhile (· ≠ '%'))) ++
      String.ofList (hostname.dropWhile (· ≠ '%')))

/-- `port` -/
def port (self : SplitResult) : Option (Option Nat) :=
  let port := self.hostinfo.2
  if port = [] then some none
  else if port.all Char.isDigit then
    let number := Nat.ofDigitChars 10 port 0
    if number ≤ 65535 then some (some number) else none
  else none

end SplitResult

end

end DbGateway.Url
