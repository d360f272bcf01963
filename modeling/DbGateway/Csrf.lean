import DbGateway.Url

/-!
# DbGateway.Csrf

`utils/helpers.py` and `security/csrf.py`: which origins a state-changing
request may come from.

Origins are compared as text, in which a default port is kept, port zero is
dropped, and an IPv6 address has no brackets.  Which URLs are compared right is
said by `originsCompared_iff`.
-/

namespace DbGateway.Csrf

open Url

/-! ## Origins -/

/-- The server of a URL, with the port that is written in it. -/
structure Location where
  scheme : String
  hostname : String
  port : Option Nat
  colon_notMem : ':' ∉ scheme.toList
  deriving DecidableEq

/-- An origin: a scheme, a host and a port. -/
structure Origin where
  scheme : String
  host : String
  port : Option Nat
  deriving DecidableEq

/-- The port of a scheme where none is written. -/
def defaultPort (scheme : String) : Option Nat :=
  if scheme = "http" then some 80 else if scheme = "https" then some 443 else none

namespace Location

/-- The origin, with the port that is in effect. -/
def origin (self : Location) : Origin :=
  ⟨self.scheme, self.hostname, self.port.or (defaultPort self.scheme)⟩

/-- The port, where it is truthy. -/
def shownPort (self : Location) : Option Nat := self.port.filter (· ≠ 0)

/-- `f":{parsed.port}" if parsed.port else ""` -/
def portText (self : Location) : String :=
  match self.shownPort with
  | some port => ":" ++ toString port
  | none => ""

/-- `f"{parsed.scheme}://{parsed.hostname}{port}"` -/
def text (self : Location) : String :=
  self.scheme ++ "://" ++ self.hostname ++ self.portText

end Location

section

variable [Python] [PythonUrls]

/-- `normalize_origin` -/
def normalizeOrigin (url : String) : Option String := do
  let parsed ← urlsplit url
  let hostname ← parsed.hostname
  if parsed.scheme ≠ "" ∧ hostname ≠ "" then
    let port ← parsed.port
    some (Location.text ⟨parsed.scheme, hostname, port, parsed.colon_notMem⟩)
  else none

/-- What `urlparse` finds in an absolute URL with a host. -/
def locate (url : String) : Option Location := do
  let parsed ← urlsplit url
  let hostname ← parsed.hostname
  if parsed.scheme ≠ "" ∧ hostname ≠ "" then
    let port ← parsed.port
    some ⟨parsed.scheme, hostname, port, parsed.colon_notMem⟩
  else none

/-- An absolute URL that `urlparse` accepts, with a host. -/
structure AbsoluteUrl where
  text : String
  location : Location
  located : locate text = some location

/-! ## Requests -/

/-- The settings the allowlist is read from. -/
structure Settings where
  allowedOrigins : List String
  reactAppUrl : String
  frontendUrl : String

/-- The URLs of the settings. -/
def Settings.urls (settings : Settings) : List String :=
  settings.allowedOrigins ++ [settings.reactAppUrl, settings.frontendUrl]

/-- The body of the loops of `get_allowed_origins`. -/
def addOrigin (allowed : List String) (origin : String) : List String :=
  if origin = "" then allowed
  else
    match normalizeOrigin (strip origin) with
    | some normalized => if normalized ∈ allowed then allowed else allowed ++ [normalized]
    | none => allowed

/-- `get_allowed_origins` -/
def getAllowedOrigins (settings : Settings) : List String :=
  [settings.reactAppUrl, settings.frontendUrl].foldl addOrigin
    (settings.allowedOrigins.foldl addOrigin [])

/-- `_origin_from_header` -/
def originFromHeader (value : Option String) : Option String :=
  match value with
  | none => none
  | some value =>
      let value := strip value
      if value = "" ∨ lower value = "null" then none else normalizeOrigin value

/-- The headers of a request. -/
structure Request where
  origin : Option String
  referer : Option String

/-- `request_origin_is_allowed` -/
def requestOriginIsAllowed (settings : Settings) (request : Request) : Bool :=
  let allowed := getAllowedOrigins settings
  match originFromHeader request.origin with
  | some origin => origin ∈ allowed
  | none =>
      match originFromHeader request.referer with
      | some referer => referer ∈ allowed
      | none => false

/-- An `Origin` header with an absolute URL in it. -/
structure OriginHeader where
  value : String
  url : AbsoluteUrl
  stripped : strip value = url.text

/-- Where the settings allow requests from. -/
def Settings.locations (settings : Settings) : List Location :=
  settings.urls.filterMap fun url => locate (strip url)

theorem normalizeOrigin_eq (url : String) : normalizeOrigin url = (locate url).map Location.text := by
  unfold normalizeOrigin locate
  cases urlsplit url with
  | none => rfl
  | some parsed =>
      simp only [Option.bind_eq_bind, Option.bind_some]
      cases parsed.hostname with
      | none => rfl
      | some hostname =>
          simp only [Option.bind_some]
          split
          · cases parsed.port <;> rfl
          · rfl

theorem locate_empty : locate "" = none := rfl

/-- A URL that can be located is not `null`. -/
theorem lower_ne_null {url : String} {location : Location} (h : locate url = some location) :
    lower url ≠ "null" := by
  intro hnull
  unfold locate at h
  cases hparsed : urlsplit url with
  | none =>
      rw [hparsed] at h
      contradiction
  | some parsed =>
      have hscheme : parsed.scheme ≠ "" := by
        intro hempty
        rw [hparsed] at h
        simp only [Option.bind_eq_bind, Option.bind_some, hempty, ne_eq, not_true_eq_false,
          false_and, if_false, Option.bind_fun_none] at h
        contradiction
      have hcolon := PythonUrls.lower_colon url (colon_mem_of_scheme hparsed hscheme)
      rw [hnull] at hcolon
      exact absurd hcolon (by decide)

theorem mem_addOrigin {allowed : List String} {origin text : String} :
    text ∈ addOrigin allowed origin ↔
      text ∈ allowed ∨ normalizeOrigin (strip origin) = some text := by
  unfold addOrigin
  split
  case isTrue hempty =>
    have hnone : normalizeOrigin (strip origin) = none := by
      rw [hempty]
      rfl
    rw [hnone]
    exact ⟨.inl, fun h => h.resolve_right (Option.some_ne_none text).symm⟩
  case isFalse =>
    cases hnormalized : normalizeOrigin (strip origin) with
    | none => exact ⟨.inl, fun h => h.resolve_right (Option.some_ne_none text).symm⟩
    | some normalized =>
        simp only [Option.some.injEq]
        split
        case isTrue hmem => exact ⟨.inl, fun h => h.elim id fun htext => htext ▸ hmem⟩
        case isFalse => rw [List.mem_append, List.mem_singleton, eq_comm (a := text)]

/-- The allowlist holds what the settings are normalised to. -/
theorem mem_getAllowedOrigins {settings : Settings} {text : String} :
    text ∈ getAllowedOrigins settings ↔ ∃ location ∈ settings.locations, location.text = text := by
  have hfold : ∀ (origins : List String) (allowed : List String),
      text ∈ origins.foldl addOrigin allowed ↔
        text ∈ allowed ∨ ∃ origin ∈ origins, normalizeOrigin (strip origin) = some text := by
    intro origins
    induction origins with
    | nil => simp
    | cons origin origins ih =>
        intro allowed
        rw [List.foldl_cons, ih, mem_addOrigin, List.exists_mem_cons_iff, or_assoc]
  rw [getAllowedOrigins, hfold, hfold, or_iff_right List.not_mem_nil]
  simp only [Settings.locations, Settings.urls, normalizeOrigin_eq, Option.map_eq_some_iff,
    List.mem_filterMap]
  grind

/-- An origin is accepted as the text of a configured one. -/
theorem requestOriginIsAllowed_iff {settings : Settings} {header : OriginHeader}
    {referer : Option String} :
    requestOriginIsAllowed settings ⟨some header.value, referer⟩ = true ↔
      ∃ location ∈ settings.locations, location.text = header.url.location.text := by
  have hlocated := header.url.located
  have hempty : header.url.text ≠ "" := by
    intro h
    rw [h] at hlocated
    exact nomatch locate_empty.symm.trans hlocated
  have horigin : originFromHeader (some header.value) = some header.url.location.text := by
    simp only [originFromHeader, header.stripped]
    rw [if_neg (not_or.mpr ⟨hempty, lower_ne_null hlocated⟩), normalizeOrigin_eq, hlocated]
    rfl
  simp only [requestOriginIsAllowed, horigin, decide_eq_true_eq]
  exact mem_getAllowedOrigins

end

/-! ## Same origin -/

namespace Location

/-- The origin of one is written with its default port, that of the other without. -/
def Missed (a b : Location) : Prop :=
  a.scheme = b.scheme ∧ a.hostname = b.hostname ∧
    ∃ port, defaultPort a.scheme = some port ∧
      (a.port = none ∧ b.port = some port ∨ a.port = some port ∧ b.port = none)

/-- The host of one ends in what is the port of the other. -/
def Collides (a b : Location) : Prop :=
  a.shownPort = none ∧
    ∃ port, b.shownPort = some port ∧ a.hostname = b.hostname ++ (":" ++ toString port)

/-- Port zero is taken for no port, or an IPv6 address that ends in a group of
digits for a shorter one with a port. -/
def Confused (a b : Location) : Prop :=
  a.scheme = b.scheme ∧
    (a.hostname = b.hostname ∧
        (a.port = none ∧ b.port = some 0 ∨ a.port = some 0 ∧ b.port = none) ∨
      a.Collides b ∨ b.Collides a)

/-- A scheme ends at the first colon. -/
theorem text_eq_iff {a b : Location} : a.text = b.text ↔
    a.scheme = b.scheme ∧ a.hostname ++ a.portText = b.hostname ++ b.portText := by
  have htext : ∀ self : Location, self.text.toList =
      self.scheme.toList ++ ':' :: '/' :: '/' :: (self.hostname ++ self.portText).toList := by
    intro self
    simp only [text, String.toList_append, List.append_assoc]
    rfl
  rw [← String.toList_inj, htext, htext, append_cons_inj_of_first a.colon_notMem b.colon_notMem,
    List.cons_inj_right, List.cons_inj_right, String.toList_inj, String.toList_inj]

/-- A port that is shown follows the last colon. -/
theorem colon_notMem_toString (port : Nat) : ':' ∉ (toString port).toList := by
  intro hmem
  rw [Nat.toString_eq_repr, Nat.toList_repr] at hmem
  exact absurd (Nat.isDigit_of_mem_toDigits (by decide) (by decide) hmem) (by decide)

theorem toString_inj {port port' : Nat} : toString port = toString port' ↔ port = port' := by
  refine ⟨fun h => ?_, fun h => by rw [h]⟩
  have hdigits := congrArg String.toList h
  rw [Nat.toString_eq_repr, Nat.toString_eq_repr, Nat.toList_repr, Nat.toList_repr] at hdigits
  rw [← Nat.ofDigitChars_ten_toDigits (n := port), hdigits, Nat.ofDigitChars_ten_toDigits]

theorem server_eq_iff {a b : Location} :
    a.hostname ++ a.portText = b.hostname ++ b.portText ↔
      a.hostname = b.hostname ∧ a.shownPort = b.shownPort ∨ a.Collides b ∨ b.Collides a := by
  unfold portText Collides
  cases ha : a.shownPort with
  | none =>
      cases hb : b.shownPort with
      | none => simp
      | some port => simp
  | some port =>
      cases hb : b.shownPort with
      | none => simp [eq_comm]
      | some port' =>
          have hlist : ∀ (host : String) (port : Nat), (host ++ (":" ++ toString port)).toList =
              host.toList ++ ':' :: (toString port).toList := by
            intro host port
            rw [String.toList_append, String.toList_append]
            rfl
          dsimp only
          rw [← String.toList_inj, hlist, hlist,
            append_cons_inj_of_last (colon_notMem_toString port) (colon_notMem_toString port'),
            String.toList_inj, String.toList_inj, toString_inj]
          simp

theorem defaultPort_ne_zero (scheme : String) : defaultPort scheme ≠ some 0 := by
  unfold defaultPort
  split
  · decide
  · split <;> decide

theorem not_collides {a b : Location} (h : a.hostname = b.hostname) : ¬ a.Collides b := by
  rintro ⟨-, port, -, hhost⟩
  rw [h] at hhost
  have hlength := congrArg String.length hhost
  simp only [String.length_append] at hlength
  have hcolon : ":".length = 1 := rfl
  omega

theorem Missed.origin_eq {a b : Location} (h : a.Missed b) : a.origin = b.origin := by
  obtain ⟨hscheme, hhost, port, hdefault, hport⟩ := h
  unfold origin
  rw [← hscheme, ← hhost, hdefault]
  rcases hport with ⟨ha, hb⟩ | ⟨ha, hb⟩ <;> rw [ha, hb] <;> rfl

theorem Confused.origin_ne {a b : Location} (h : a.Confused b) : a.origin ≠ b.origin := by
  intro horigin
  obtain ⟨hscheme, hhost, hport⟩ := Origin.mk.inj horigin
  rw [← hscheme] at hport
  have hzero := defaultPort_ne_zero a.scheme
  rcases h.2 with ⟨-, ⟨ha, hb⟩ | ⟨ha, hb⟩⟩ | hcollides | hcollides
  · rw [ha, hb] at hport
    exact hzero hport
  · rw [ha, hb] at hport
    exact hzero hport.symm
  · exact not_collides hhost hcollides
  · exact not_collides hhost.symm hcollides

/-- The ports of one host are shown alike: no port and port zero are not told
apart, a default port is told from none. -/
theorem shownPort_eq_iff {a b : Location} (hscheme : a.scheme = b.scheme) :
    a.shownPort = b.shownPort ↔
      a.origin.port = b.origin.port ∧
          ¬ (∃ port, defaultPort a.scheme = some port ∧
            (a.port = none ∧ b.port = some port ∨ a.port = some port ∧ b.port = none)) ∨
        a.port = none ∧ b.port = some 0 ∨ a.port = some 0 ∧ b.port = none := by
  have hzero := defaultPort_ne_zero a.scheme
  unfold shownPort origin
  rw [← hscheme]
  cases a.port <;> cases b.port <;> grind

/-- The texts agree where the origin is the same and not missed, or where two
origins are confused. -/
theorem text_eq_iff_origin {a b : Location} :
    a.text = b.text ↔ a.origin = b.origin ∧ ¬ a.Missed b ∨ a.Confused b := by
  rw [text_eq_iff, server_eq_iff]
  by_cases hscheme : a.scheme = b.scheme
  · rw [shownPort_eq_iff hscheme]
    unfold Missed Confused origin
    grind
  · unfold Confused origin
    grind

end Location

section

variable [Python] [PythonUrls]

theorem normalizeOrigin_eq_iff (u v : AbsoluteUrl) :
    normalizeOrigin u.text = normalizeOrigin v.text ↔ u.location.text = v.location.text := by
  rw [normalizeOrigin_eq, normalizeOrigin_eq, u.located, v.located, Option.map_some,
    Option.map_some, Option.some_inj]

/-- **Origin comparison is same-origin comparison** exactly where the origin is
neither missed nor confused.  A request is accepted exactly from a configured
origin, unless its origin is missed and found in no other spelling, or confused
with a configured one that is not its own. -/
theorem originsCompared_iff :
    (∀ u v : AbsoluteUrl,
      (normalizeOrigin u.text = normalizeOrigin v.text ↔ u.location.origin = v.location.origin) ↔
        ¬ u.location.Missed v.location ∧ ¬ u.location.Confused v.location) ∧
    ∀ (settings : Settings) (header : OriginHeader) (referer : Option String),
      (requestOriginIsAllowed settings ⟨some header.value, referer⟩ = true ↔
          ∃ b ∈ settings.locations, header.url.location.origin = b.origin) ↔
        ((∃ b ∈ settings.locations, header.url.location.Missed b) →
            ∃ b ∈ settings.locations, header.url.location.Confused b ∨
              header.url.location.origin = b.origin ∧ ¬ header.url.location.Missed b) ∧
          ((∃ b ∈ settings.locations, header.url.location.Confused b) →
            ∃ b ∈ settings.locations, header.url.location.origin = b.origin) := by
  constructor
  · intro u v
    rw [normalizeOrigin_eq_iff, Location.text_eq_iff_origin]
    have hmissed := Location.Missed.origin_eq (a := u.location) (b := v.location)
    have hconfused := Location.Confused.origin_ne (a := u.location) (b := v.location)
    tauto
  · intro settings header referer
    rw [requestOriginIsAllowed_iff]
    have htext : ∀ b : Location, b.text = header.url.location.text ↔
        header.url.location.origin = b.origin ∧ ¬ header.url.location.Missed b ∨
          header.url.location.Confused b := by
      intro b
      rw [eq_comm, Location.text_eq_iff_origin]
    simp only [htext]
    constructor
    · intro hright
      refine ⟨fun hmissed => ?_, fun hconfused => ?_⟩
      · obtain ⟨b, hb, hmiss⟩ := hmissed
        obtain ⟨c, hc, hread⟩ := hright.mpr ⟨b, hb, hmiss.origin_eq⟩
        exact ⟨c, hc, hread.symm⟩
      · obtain ⟨b, hb, hconf⟩ := hconfused
        exact hright.mp ⟨b, hb, .inr hconf⟩
    · rintro ⟨hmissed, hconfused⟩
      constructor
      · rintro ⟨b, hb, hsame | hconf⟩
        · exact ⟨b, hb, hsame.1⟩
        · exact hconfused ⟨b, hb, hconf⟩
      · rintro ⟨b, hb, hsame⟩
        by_cases hmiss : header.url.location.Missed b
        · obtain ⟨c, hc, hread⟩ := hmissed ⟨b, hb, hmiss⟩
          exact ⟨c, hc, hread.symm⟩
        · exact ⟨b, hb, .inl ⟨hsame, hmiss⟩⟩

end

/-- The text tables of ASCII; no address is an IPv6 address. -/
@[reducible] def asciiUrls : @PythonUrls Python.ascii :=
  letI := Python.ascii
  { isIPv6 := fun _ => false
    nfkc := id
    lower_colon := fun s h => by
      show ':' ∈ (mapChars Char.toLower s).toList
      rw [mapChars, String.toList_ofList]
      exact List.mem_map.mpr ⟨':', h, rfl⟩ }

/-- A default port that is written out. -/
theorem not_originsCompared_defaultPort :
    letI := Python.ascii
    letI := asciiUrls
    ¬ ((∀ u v : AbsoluteUrl,
        normalizeOrigin u.text = normalizeOrigin v.text ↔
          u.location.origin = v.location.origin) ∧
      ∀ (settings : Settings) (header : OriginHeader) (referer : Option String),
        requestOriginIsAllowed settings ⟨some header.value, referer⟩ = true ↔
          ∃ b ∈ settings.locations, header.url.location.origin = b.origin) := by
  let _ := Python.ascii
  let _ := asciiUrls
  let plain : AbsoluteUrl :=
    ⟨"https://app.example", ⟨"https", "app.example", none, by decide⟩, by decide⟩
  let withPort : AbsoluteUrl :=
    ⟨"https://app.example:443", ⟨"https", "app.example", some 443, by decide⟩, by decide⟩
  intro h
  have hsame := (h.1 plain withPort).mpr rfl
  revert hsame
  rw [normalizeOrigin_eq_iff]
  decide

end DbGateway.Csrf
