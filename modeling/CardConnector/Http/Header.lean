/-! # Header names and values

A header name is a token of HTTP, kept in lower case, since names do not depend on case.
A header value is any text without control characters but the tab. What a response
carries satisfies both by construction.
-/

namespace CardConnector.Http

def isTokenChar (c : Char) : Bool :=
  ('a' ≤ c && c ≤ 'z') || ('A' ≤ c && c ≤ 'Z') || ('0' ≤ c && c ≤ '9')
    || ['!', '#', '$', '%', '&', '\'', '*', '+', '-', '.', '^', '_', '`', '|', '~'].contains c

def lowerTokenChar (c : Char) : Char :=
  if 'A' ≤ c && c ≤ 'Z' then Char.ofNat (c.toNat + 32) else c

/-- True of the characters of a token in lower case. -/
def isLowerTokenChar (c : Char) : Bool := isTokenChar c && !('A' ≤ c && c ≤ 'Z')

def maxNameLength : Nat := 65535

/-- True of the header names of a response: lower-case tokens of bounded length. -/
def isName (s : String) : Bool :=
  let cs := s.toList
  !cs.isEmpty && decide (cs.length ≤ maxNameLength) && cs.all isLowerTokenChar

/-- True of the texts that a header value may be. -/
def isValue (s : String) : Bool :=
  s.toList.all fun c => c == '\t' || (32 ≤ c.toNat && c.toNat != 127)

/-- The reason why a text is no header name. -/
def nameFault : String := "invalid HTTP header name"

/-- The reason why a text is no header value. -/
def valueFault : String := "failed to parse header value"

structure HeaderName where
  text : String
  legal : isName text = true
deriving DecidableEq

structure HeaderValue where
  text : String
  legal : isValue text = true
deriving DecidableEq

/-- Names of one text are one name. -/
theorem HeaderName.ext_text {first second : HeaderName} (h : first.text = second.text) :
    first = second := by
  cases first
  cases second
  cases h
  rfl

/-- A header name in any mixture of cases. -/
def HeaderName.ofText? (s : String) : Option HeaderName :=
  let cs := s.toList
  if cs.all isTokenChar then
    let lower := String.ofList (cs.map lowerTokenChar)
    if h : isName lower = true then some ⟨lower, h⟩ else none
  else none

def HeaderValue.ofText? (s : String) : Option HeaderValue :=
  if h : isValue s = true then some ⟨s, h⟩ else none

theorem HeaderValue.text_of_ofText? {s : String} {value : HeaderValue}
    (h : HeaderValue.ofText? s = some value) : value.text = s := by
  unfold HeaderValue.ofText? at h
  split at h
  · cases h; rfl
  · cases h

namespace HeaderName

def location : HeaderName := ⟨"location", by decide⟩

def contentType : HeaderName := ⟨"content-type", by decide⟩

/-- How long the response may be kept. -/
def cacheControl : HeaderName := ⟨"cache-control", by decide⟩

def contentSecurityPolicy : HeaderName := ⟨"content-security-policy", by decide⟩

/-- Whether the type of content may be guessed. -/
def contentTypeOptions : HeaderName := ⟨"x-content-type-options", by decide⟩

/-- Whether the page may be shown in a frame. -/
def frameOptions : HeaderName := ⟨"x-frame-options", by decide⟩

def scriptProtection : HeaderName := ⟨"x-xss-protection", by decide⟩

def minorResult : HeaderName := ⟨"x-result-minor", by decide⟩

end HeaderName

end CardConnector.Http
