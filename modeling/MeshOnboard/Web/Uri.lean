import MeshOnboard.Text.Pieces

/-!
# Request addresses

An absolute address has a scheme, an authority and a path with a query.  `Uri.read?` also accepts a
path alone and an authority alone; those cannot be requested.  A fragment is dropped.  What is
refused is refused for the first reason met from left to right.
-/

namespace MeshOnboard

/-- Why a text is no address. -/
inductive UriError where
  | character
  | authority
  | format
  | tooLong
  | schemeTooLong
  | empty
  deriving DecidableEq

/-- The wording of an address error. -/
def UriError.message : UriError → String
  | character => "invalid uri character"
  | authority => "invalid authority"
  | format => "invalid format"
  | tooLong => "uri too long"
  | schemeTooLong => "scheme too long"
  | empty => "empty string"

/-- The address of a request. -/
structure Uri where
  scheme : Option (List Char)
  authority : List Char
  /-- The path, and the query behind a question mark. -/
  path : List Char
  deriving DecidableEq

namespace Uri

/-- The number of octets an address may have. -/
def maxLength : Nat := 65534

/-- The number of characters a scheme may have. -/
def maxSchemeLength : Nat := 64

/-! ### Characters -/

/-- Whether a character may be part of a scheme. -/
def isSchemeChar (c : Char) : Bool := c.isAlphanum || "+-.~".toList.contains c

/-- Whether a character may be part of an authority. -/
def isAuthorityChar (c : Char) : Bool := c.isAlphanum || "!$&'()*+,-.:;=@[]_~%".toList.contains c

/-- Whether a character may be part of a path. -/
def isPathChar (c : Char) : Bool :=
  c = '!' || ('$' ≤ c && c ≤ ';') || c = '=' || ('@' ≤ c && c ≤ '_') || ('a' ≤ c && c ≤ 'z') ||
    "|~\"\x7b\x7d".toList.contains c

/-- Whether a character may be part of a query. -/
def isQueryChar (c : Char) : Bool :=
  c = '!' || ('$' ≤ c && c ≤ ';') || c = '=' || ('?' ≤ c && c ≤ '~')

/-- Whether a character ends an authority. -/
def endsAuthority (c : Char) : Bool := c = '/' || c = '?' || c = '#'

/-! ### Scheme -/

/-- Whether `cs` starts with `lower`, in letters of either case. -/
def startsWithFolded (lower cs : List Char) : Bool :=
  lower.isPrefixOf (cs.map Char.toLower)

/-- The scheme and the text behind the two slashes that follow it; a text may have none. -/
def splitScheme (cs : List Char) : Except UriError (Option (List Char) × List Char) :=
  if startsWithFolded "http://".toList cs then .ok (some "http".toList, cs.drop 7)
  else if startsWithFolded "https://".toList cs then .ok (some "https".toList, cs.drop 8)
  else
    let name := cs.takeWhile isSchemeChar
    match cs.dropWhile isSchemeChar with
    | ':' :: '/' :: '/' :: rest =>
      if maxSchemeLength < name.length then .error .schemeTooLong else .ok (some name, rest)
    | _ => .ok (none, cs)

/-! ### Authority -/

/-- What has been seen of an authority. -/
structure AuthorityState where
  /-- The colons since the last bracket or at sign. -/
  colons : Nat
  opened : Bool
  closed : Bool
  /-- Whether there is a percent sign since the last closing bracket or at sign. -/
  percent : Bool
  /-- Whether the last character is an at sign. -/
  atEnd : Bool

/-- The state after one more character. -/
def AuthorityState.step (s : AuthorityState) (c : Char) : Except UriError AuthorityState :=
  let s := { s with atEnd := false }
  if !isAuthorityChar c then .error .character
  else if c = ':' then
    if 8 ≤ s.colons then .error .authority else .ok { s with colons := s.colons + 1 }
  else if c = '[' then
    if s.percent || s.opened then .error .authority else .ok { s with opened := true }
  else if c = ']' then
    if !s.opened || s.closed then .error .authority
    else .ok { s with closed := true, colons := 0, percent := false }
  else if c = '@' then .ok { s with colons := 0, percent := false, atEnd := true }
  else if c = '%' then .ok { s with percent := true }
  else .ok s

/-- The authority at the start of `cs`, and the text behind it. -/
def splitAuthority (cs : List Char) : Except UriError (List Char × List Char) := do
  let authority := cs.takeWhile fun c => !endsAuthority c
  let s ← authority.foldlM AuthorityState.step ⟨0, false, false, false, false⟩
  if s.opened ≠ s.closed ∨ 1 < s.colons ∨ s.atEnd ∨ s.percent then throw .authority
  return (authority, cs.dropWhile fun c => !endsAuthority c)

/-! ### Path -/

/-- The path and the query, without the fragment behind them. -/
def readPath (cs : List Char) : Except UriError (List Char) :=
  let kept := cs.takeWhile (· ≠ '#')
  let path := kept.takeWhile (· ≠ '?')
  let query := (kept.dropWhile (· ≠ '?')).drop 1
  if path.all isPathChar && query.all isQueryChar then .ok kept else .error .character

/-! ### The whole -/

/-- The address with the given text. -/
def read (s : String) : Except UriError Uri := do
  let cs := s.toList
  if maxLength < s.utf8ByteSize then throw .tooLong
  match cs with
  | [] => throw .empty
  | ['*'] => return ⟨none, [], cs⟩
  | '/' :: _ => return ⟨none, [], ← readPath cs⟩
  | _ =>
    let (scheme, rest) ← splitScheme cs
    let (authority, rest) ← splitAuthority rest
    match scheme with
    | none => if rest = [] then return ⟨none, authority, []⟩ else throw .format
    | some _ =>
      if authority = [] then throw .format
      return ⟨scheme, authority, ← readPath rest⟩

/-- Whether a request can be made to an address. -/
def isAbsolute (u : Uri) : Bool := u.scheme.isSome

/-- The target that a request names: the path, a slash where it is empty, before the query. -/
def target (u : Uri) : List Char :=
  match u.path with
  | '/' :: _ => u.path
  | _ => '/' :: u.path

end Uri

end MeshOnboard
